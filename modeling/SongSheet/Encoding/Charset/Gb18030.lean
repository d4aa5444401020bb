import SongSheet.Encoding.Charset

/-!
# GB 18030

What GB 18030 has beside GBK in two octets.
-/

set_option autoImplicit false

namespace SongSheet

/-- The characters of GB 18030 by their two octets, without those of GBK. -/
def gb18030Extension : Charset := .ofTable
  "A140+3F E4C6
A180+21 E505
A240+3F E526
A280+21 E565
A2AB \ue766\ue767\ue768\ue769\ue76a\ue76b
A2E3 €\ue76d
A2EF \ue76e\ue76f
A2FD \ue770\ue771
A340+3F E586
A380+21 E5C5
A440+3F E5E6
A480+21 E625
A4F4+B E772
A540+3F E646
A580+21 E685
A5F7+8 E77D
A640+3F E6A6
A680+21 E6E5
A6B9+8 E785
A6D9 \ue78d\ue78e\ue78f\ue790\ue791\ue792\ue793
A6EC \ue794\ue795
A6F3 \ue796
A6F6+9 E797
A740+3F E706
A780+21 E745
A7C2+F E7A0
A7F2+D E7AF
A896+B E7BC
A8BC \ue7c7
A8BF ǹ
A8C1 \ue7c9\ue7ca\ue7cb\ue7cc
A8EA+15 E7CD
A958 \ue7e2
A95B \ue7e3
A95D \ue7e4\ue7e5\ue7e6
A989 〾
A98A+C 2FF0
A997+D E7F4
A9F0+F E801
AAA1+5E E000
ABA1+5E E05E
ACA1+5E E0BC
ADA1+5E E11A
AEA1+5E E178
AFA1+5E E1D6
D7FA \ue810\ue811\ue812\ue813\ue814
F8A1+5E E234
F9A1+5E E292
FAA1+5E E2F0
FBA1+5E E34E
FCA1+5E E3AC
FDA1+5E E40A
FE50 ⺁\ue816\ue817\ue818⺄㑳㑇⺈⺋\ue81e㖞㘚㘎⺌⺗㥮㤘\ue826㧏㧟㩳㧐\ue82b\ue82c㭎㱮㳠⺧\ue831\ue832⺪䁖䅟⺮䌷⺳⺶⺷\ue83b䎱䎬
FE79 ⺻䏝䓖䙡䙌\ue843
FE80 䜣䜩䝼䞍⻊䥇䥺䥽䦂䦃䦅䦆䦟䦛䦷䦶\ue854\ue855䲣䲟䲠䲡䱷䲢䴓䴔䴕䴖䴗䴘䴙䶮\ue864
FEA1+5E E468"

end SongSheet
