import SongSheet.Encoding.Charset

/-!
# GBK

What GBK has beside GB 2312, or in place of it.
-/

set_option autoImplicit false

namespace SongSheet

/-- The characters of GBK by their two octets, without those of GB 2312. -/
def gbkExtension : Charset := .ofTable
  "8140 丂丄丅丆丏丒丗丟丠両丣並丩丮丯丱丳丵丷丼乀乁乂乄乆乊乑乕乗乚乛乢乣乤乥乧乨乪乫乬乭乮乯乲
816C+A 4E74
8176 乿亀亁亂亃亄亅亇亊
8180 亐亖亗亙亜亝亞亣亪亯亰亱亴亶亷亸亹亼亽亾仈仌仏仐仒仚仛仜仠仢仦仧仩仭仮仯仱仴仸仹仺仼仾伀伂伃伄伅伆伇伈伋伌伒伓伔伕伖伜伝伡伣伨伩伬伭伮伱伳伵伷伹伻伾伿佀佁佂佄佅佇佈佉佊佋佌佒佔佖佡佢
81DB 佦佨佪佫佭佮佱佲併佷佸佹佺佽侀侁侂侅來侇侊侌侎侐侒侓侕侖侘侙侚侜侞侟価侢
8240 侤侫侭侰侱侲侳侴
8248+9 4FB6
8251 俀俁係俆俇俈俉俋俌俍俒俓俔俕俖俙俛俠俢俤俥俧俫俬俰俲俴俵俶俷俹俻俼俽
8273+C 4FFF
8280 個倎倐們倓倕倖倗倛倝倞倠倢倣値倧倫
8291+B 502F
829C 倻倽倿偀偁偂偄偅偆偉偊偋偍偐偑偒偓偔偖偗偘偙偛
82B3+8 505D
82BB 偦偧偨偩偪偫
82C1+9 506D
82CA 偸偹偺偼偽傁傂傃傄傆傇傉傊傋傌
82D9+15 508E
82EE 傤傦傪傫傭傮傯傰傱傳傴債傶傷傸傹傼
8340+12 50BD
8352 僐僑僒僓僔僕僗僘僙
835B+B 50DB
8366 僨僩僪僫僯僰僱僲僴僶僷僸價僺
8374+A 50FC
837E 儈
8380 儉儊儌儍儎儏儐儑
8388+E 5113
8396+1D 5122
83B3 兂兇兊兌兎兏児兒兓兗兘兙兛兝兞兟兠兡兣兤兦內兩兪兯兲兺兾兿冃冄円冇冊冋冎冏冐冑冓冔冘冚冝冞冟冡冣冦冧冨冩冪冭冮冴冸冹冺冾冿凁凂凃凅凈凊凍凎凐凒凓凔凕凖凗
8440 凘凙凚凜凞凟凢凣凥処凧凨凩凪凬凮凱凲凴凷凾刄刅刉刋刌刏刐刓刔刕刜刞刟刡刢刣別刦刧刪刬刯刱刲刴刵刼刾剄剅剆則剈剉剋剎剏剒剓剕剗剘
8480 剙剚剛剝剟剠剢剣剤剦剨剫剬剭剮剰剱
8491+A 5273
849B 剾劀劃劄劅劆劇劉劊劋劌劍劎劏劑劒劔劕劖劗劘劙劚劜劤劥劦劧劮劯劰
84BA+A 52B4
84C4 勀勁勂勄勅勆勈勊勌勍勎勏勑勓勔動勗務勚勛勜勝勞勠勡勢勣
84DF+B 52E5
84EA+8 52F1
84F2 勻勼勽匁匂匃匄匇匉匊匋匌匎
8540 匑匒匓匔匘匛匜匞匟匢匤匥匧匨匩匫匬匭
8552+A 532F
855C 匼匽區卂卄卆卋卌卍卐協単卙卛卝卥卨卪卬卭卲卶卹卻卼卽卾厀厁厃厇厈厊厎厏
8580 厐厑厒厓厔厖厗厙厛厜厞厠厡厤厧厪厫厬厭厯厰厱厲厳厴厵厷厸厹厺厼厽厾叀參叄叅叆叇収叏叐叒叓叕叚叜叝叞叡叢叧叴叺叾叿吀吂吅吇吋吔吘吙吚吜吢吤吥吪吰吳吶吷吺吽吿呁呂呄呅呇呉呌呍呎呏呑呚呝呞
85DB 呟呠呡呣呥呧
85E1+8 5469
85E9 呴呹呺呾呿咁咃咅咇咈咉咊咍咑咓咗咘咜咞咟咠咡
8640 咢咥咮咰咲咵咶咷咹咺咼咾哃哅哊哋哖哘哛哠員哢哣哤哫哬哯哰哱哴哵哶哷哸哹哻哾唀唂唃唄唅唈唊唋唌唍唎唒唓唕唖唗唘唙唚唜唝唞唟唡唥唦
8680 唨唩唫唭唲唴唵唶唸唹唺唻唽啀啂啅啇啈啋啌啍啎問啑啒啓啔啗啘啙啚啛啝啞啟啠啢啣啨啩啫啯啰啱啲啳啴啹啺啽啿喅喆喌喍喎喐喒喓喕喖喗喚喛喞喠喡喢喣喤喥喦
86C8+9 55A8
86D1 喲喴営喸喺喼喿嗀嗁嗂嗃嗆嗇嗈嗊嗋嗎嗏嗐嗕嗗嗘嗙嗚嗛嗞嗠嗢嗧嗩嗭嗮嗰嗱嗴嗶嗸嗹嗺嗻嗼嗿嘂嘃嘄嘅
8740 嘆嘇嘊嘋嘍
8745+8 5610
874D 嘙嘚嘜嘝嘠嘡嘢嘥嘦嘨嘩嘪嘫嘮嘯嘰嘳嘵嘷嘸嘺嘼嘽嘾
8765+C 5640
8771 噏噐噑噒噓噕噖噚噛噝噞噟噠噡
8780 噣噥噦噧噭噮噯噰噲噳噴噵噷噸噹噺
8790+8 567D
8798 嚇嚈嚉嚊嚋嚌嚍嚐嚑嚒
87A2+F 5694
87B1+B 56A4
87BC 嚰嚱嚲嚳嚴嚵嚶嚸嚹嚺嚻
87C7+D 56BD
87D4+9 56CB
87DD 囕囖囘囙囜団囥囦囧囨囩囪囬囮囯囲図囶囷囸囻囼圀圁圂圅圇國圌圍圎圏圐圑
8840+A 5712
884A 圝圞圠圡圢圤圥圦圧圫圱圲圴圵圶圷圸圼圽圿坁坃坄坅坆坈坉坋坒坓坔坕坖坘坙坢坣坥坧坬坮坰坱坲坴坵坸坹坺坽坾坿垀
8880 垁垇垈垉垊垍垎垏垐垑垔垕垖垗垘垙垚垜垝垞垟垥垨垪垬垯垰垱垳垵垶垷
88A0+9 57B9
88A9 埄埅埆埇埈埉埊埌埍埐埑埓埖埗埛埜埞埡埢埣
88BD+8 57E5
88C5 埮埰埱埲埳埵埶執埻埼埾埿堁堃堄堅堈堉堊堌堎堏堐堒堓堔堖堗堘堚堛堜堝堟堢堣堥堦堧堨堩堫堬堭堮堯報堲堳場
88F7+8 5836
8940 堾堿塀塁塂塃塅塆塇塈塉塊塋塎塏塐塒塓塕塖塗塙塚塛塜塝塟塠塡塢塣塤塦塧塨塩塪
8965+11 586D
8976 塿墂墄墆墇墈墊墋墌
8980 墍墎墏墐墑墔墕墖増墘墛墜墝
898D+8 58A0
8995+12 58AA
89A7 墽墾墿壀壂壃壄
89AE+B 58C6
89B9 壒壓壔
89BC+E 58D6
89CA 壥壦壧壨壩壪壭壯壱売壴壵壷壸
89D8+8 58FA
89E0 夃夅夆夈変夊夋夌夎夐夑夒夓夗夘夛夝夞夠夡夢夣夦夨夬夰夲夳夵夶夻
8A40 夽夾夿奀奃奅奆奊奌奍奐奒奓奙奛奜奝奞奟奡奣奤
8A56+D 5966
8A63 奵奷奺奻奼奾奿妀妅妉妋妌妎妏妐妑妔妕妘妚妛妜妝妟妠妡妢妦
8A80 妧妬妭妰妱妳妴妵妶妷妸妺妼妽妿姀姁姂姃姄姅姇姈姉姌姍姎姏姕姖姙姛姞姟姠姡姢姤姦姧姩姪姫
8AAB+C 59ED
8AB7 姺姼姽姾娀娂娊娋娍娎娏娐娒娔娕娖娗娙娚娛娝娞娡娢娤娦娧娨娪娫娬娭娮娯娰娳娵娷娸娹娺娻娽娾娿婁婂婃婄婅婇婈
8AEB+A 5A4B
8AF5 婖婗婘婙婛婜婝婞婟婠
8B40 婡婣婤婥婦婨婩
8B47+9 5A6B
8B50 婸婹婻婼婽婾
8B56+12 5A80
8B68 媓媔媕媖媗媘媙
8B6F+E 5A9C
8B7D 媫媬
8B80 媭媮媯媰媱媴媶媷媹媺媻媼媽媿嫀嫃嫄嫅嫆嫇嫈嫊嫋嫍嫎嫏嫐嫑嫓嫕嫗嫙嫚嫛嫝嫞嫟嫢嫤嫥嫧嫨嫪嫬嫭嫮嫯嫰
8BB0+17 5AF2
8BC7+C 5B0A
8BD3+1A 5B18
8BED 嬳嬵嬶
8BF0+8 5B38
8BF8 孁孂孃孄孅孆孇
8C40+8 5B48
8C48 孒孖孞孠孡孧孨孫孭孮孯孲孴孶孷學孹孻孼孾孿宂宆宊宍宎宐宑宒宔宖実宧宨宩宬宭宮宯宱宲宷宺宻宼寀寁寃寈寉寊寋寍寎寏
8C80 寑
8C81+9 5BD4
8C8A 寠寢寣實寧審寪寫寬寭寯寱寲寳寴寵寶寷寽対尀専尃尅將專尋尌對導尐尒尓尗尙尛尞尟尠尡尣尦尨尩尪尫尭尮尯尰尲尳尵尶尷屃屄屆屇屌屍屒屓屔屖屗屘屚屛屜屝屟屢層屧屨屩屪屫屬屭屰屲屳屴屵屶屷屸屻屼
8CE5 屽屾岀岃岄岅岆岇岉岊岋岎岏岒岓岕岝岞岟岠岡岤岥岦岧岨
8D40 岪岮岯岰岲岴岶岹岺岻岼岾峀峂峃峅峆峇峈峉峊峌峍峎峏峐峑峓峔峕峖峗峘峚峛峜峝峞峟峠峢峣峧峩峫峬峮峯
8D70+A 5CF1
8D7A 峼峽峾峿崀
8D80 崁崄崅崈崉崊崋崌崍崏崐崑崒崓崕崗崘崙崚崜崝崟崠崡崢崣崥崨崪崫崬崯崰崱崲崳
8DA4+8 5D35
8DAC+8 5D3F
8DB4 嵈嵉
8DB6+B 5D4D
8DC1 嵙嵚嵜
8DC4+B 5D5E
8DCF 嵪嵭嵮嵰嵱嵲嵳
8DD6+D 5D75
8DE3+16 5D83
8DF9 嶚嶛嶜嶞嶟嶠
8E40+16 5DA1
8E56+D 5DB8
8E63 巆巇巈巉巊巋巌
8E6A+D 5DCE
8E77 巜巟巠巣巤巪巬巭
8E80 巰巵巶巸巹巺巻巼巿帀帄帇帉帊帋帍帎帒帓帗
8E94+8 5E1E
8E9C 帨帩帪師帬帯帰帲帳帴帵帶帹帺帾帿幀幁幃幆幇幈幉幊幋幍幎幏幐幑幒幓幖幗幘幙幚幜幝幟幠
8EC5+F 5E63
8ED4 幵幷幹幾庁庂広庅庈庉庌庍庎庒庘庛庝庡庢庣庤庨庩庪庫庬庮庯庰庱庲庴庺庻庼庽庿廀廁廂廃廄廅
8F40 廆廇廈廋廌廍廎廏廐廔廕廗廘廙廚
8F4F+C 5EDC
8F5B 廩
8F5C+9 5EEB
8F65 廵廸廹廻廼廽弅弆弇弉弌弍弎弐弒弔弖弙弚弜弝弞弡弢弣弤
8F80 弨弫弬弮弰弲弳弴張弶強弸弻弽弾弿
8F90+F 5F41
8F9F 彑彔彙彚彛彜彞彟彠彣彥彧彨彫彮彯彲彴彵彶彸彺彽彾彿徃徆徍徎徏徑従徔徖徚徛徝從徟徠徢徣徤徥徦徧復徫徬徯徰徱徲徳徴徶徸徹徺徻徾徿忀忁忂忇忈忊忋忎忓忔忕忚忛応忞忟忢忣忥忦忨忩忬忯忰忲忳忴忶
8FFA 忷忹忺忼怇
9040 怈怉怋怌怐怑怓怗怘怚怞怟怢怣怤怬怭怮怰怱怲怳怴怶怷怸怹怺怽怾恀恄恅恆恇恈恉恊恌恎恏恑恓恔恖恗恘恛恜恞恟恠恡恥恦恮恱恲恴恵恷恾悀
9080 悁悂悅悆悇悈悊悋悎悏悐悑悓悕悗悘悙悜悞悡悢悤悥悧悩悪悮悰悳悵悶悷悹悺
90A2+8 60BD
90AA 惇惈惉惌惍惎惏惐惒惓惔惖惗惙惛惞惡惢惣惤惥惪惱惲惵惷惸惻惼惽惾惿愂愃愄愅愇愊愋愌愐愑愒愓愔愖愗愘愙愛愜愝愞愡愢愥愨愩愪
90E5+13 612C
90F8 慀慁慂慃慄慅慆
9140 慇慉態慍慏慐慒慓慔慖慗慘慙慚慛慜慞慟慠慡慣慤慥慦慩慪慫慬慭慮慯慱慲慳慴慶
9164+13 6178
9177 憌憍憏憐憑憒憓憕
9180 憖憗憘憙憚憛憜
9187+9 619E
9190 憪憫
9192+A 61AD
919C 憸憹憺憻憼憽憿懀懁懃懄懅懆懇應懌懍懎懏懐懓
91B1+11 61D5
91C2+E 61E7
91D0+9 61F6
91D9 戀戁戂戃戄戅戇戉戓戔戙戜戝戞戠戣戦戧戨戩戫戭戯戰戱戲戵戶戸戹戺戻戼扂扄扅扆扊
9240 扏扐払扖扗扙扚扜扝扞扟扠扡扢扤扥扨扱扲扴扵扷扸扺扻扽抁抂抃抅抆抇抈抋抌抍抎抏抐抔抙抜抝択抣抦抧抩抪抭抮抯抰抲抳抴抶抷抸抺抾拀拁
9280 拃拋拏拑拕拝拞拠拡拤拪拫拰拲拵拸拹拺拻挀挃挄挅挆挊挋挌挍挏挐挒挓挔挕挗挘挙挜挦挧挩挬挭挮挰挱挳挴挵挶挷挸挻挼挾挿捀捁捄捇捈捊捑捒捓捔
92C2+8 6356
92CA 捠捤捥捦捨捪捫捬捯捰捲捳捴捵捸捹捼捽捾捿掁掃掄掅掆掋掍掑掓掔掕掗掙掚掛掜掝掞掟採掤掦掫掯掱掲掵掶掹掻掽掿揀
9340 揁揂揃揅揇揈揊揋揌揑揓揔揕揗揘揙揚換揜揝揟揢揤揥揦揧揨揫揬揮揯揰揱揳揵揷揹揺揻揼揾搃搄搆搇搈搉搊損搎搑搒搕搖搗搘搙搚搝搟搢搣搤
9380 搥搧搨搩搫搮搯搰搱搲搳搵搶搷搸搹搻搼搾摀摂摃摉摋摌摍摎摏摐摑摓摕摖摗摙摚摛摜摝
93A7+8 645F
93AF 摨摪摫摬
93B3+A 646E
93BD 摻摼摽摾摿撀撁撃撆
93C6+9 6488
93CF 撓撔撗撘撚撛撜撝撟撠撡撢撣撥撦撧撨撪撫撯撱撲撳撴撶撹撻撽撾撿擁擃擄擆擇擈擉擊擋擌擏擑擓擔擕擖擙據
9440 擛擜擝擟擠擡擣擥
9448+19 64E7
9461+8 6501
9469+8 650A
9471 攓攔攕攖攗
9476+9 6519
9480 攢攣攤攦攧攨攩攪攬攭攰攱攲攳攷攺攼攽敀敁敂敃敄敆敇敊敋敍敎敐敒敓敔敗敘敚敜敟敠敡敤敥敧敨敩敪敭敮敯敱敳敵敶
94B5+F 6578
94C4 斈斉斊斍斎斏斒斔斕斖斘斚斝斞斠斢斣斦斨斪斬斮
94DA+8 65B1
94E2 斺斻斾斿旀旂旇旈旉旊旍旐旑旓旔旕
94F2+8 65D8
94FA 旡旣旤旪旫
9540 旲旳旴旵旸旹旻旼旽旾旿昁昄昅昇昈昉昋昍昐昑昒昖昗昘昚昛昜昞昡昢昣昤昦昩昪昫昬昮昰昲昳昷昸昹昺昻昽昿晀時晄晅晆晇晈晉晊晍晎晐晑晘
9580 晙晛晜晝晞晠晢晣晥晧晩晪晫晬晭晱晲晳晵晸晹晻晼晽晿暀暁暃暅暆暈暉暊暋暍暎暏暐暒暓暔暕暘暙暚暛暜
95AF+9 669E
95B8 暩暪暫暬暭暯暰暱暲暳暵暶暷暸暺暻暼暽
95CA+1A 66BF
95E4 曚
95E5+8 66DE
95ED 曧曨曪曫曬曭曮曯曱曵曶書曺曻曽朁朂會
9640 朄朅朆朇朌朎朏朑朒朓朖朘朙朚朜朞朠朡朢朣朤朥朧朩朮朰朲朳朶朷朸朹朻朼朾朿杁杄杅杇杊杋杍杒杔杕杗杘杙杚杛杝杢杣杤杦杧杫杬杮東杴杶
9680 杸杹杺杻杽枀枂枃枅枆枈枊枌枍枎枏枑枒枓枔枖枙枛枟枠枡枤枦枩枬枮枱枲枴
96A2+8 67B9
96AA 柂
96AB+A 67C5
96B5 柕柖柗柛柟柡柣柤柦柧柨柪柫柭柮柲
96C5+8 67F5
96CD 柾栁栂栃栄栆栍栐栒栔栕栘栙栚栛栜栞栟栠栢栣栤栥栦栧栨栫栬栭栮栯栰栱栴栵栶栺栻栿桇桋桍桏桒桖桗桘桙桚桛
9740 桜桝桞桟桪
9745+8 686C
974D 桵
974E+9 6878
9757 梂梄
9759+8 6887
9761 梐梑梒梔梕梖
9767+A 6898
9771 梣梤梥梩梪梫梬梮梱梲梴梶梷梸
9780 梹梺梻梼梽梾梿棁棃棄棅棆棇棈棊棌棎棏棐棑棓棔棖棗棙棛棜棝棞棟棡棢
97A0+A 68E4
97AA 棯棲棳棴棶棷棸棻棽棾棿椀椂椃椄椆椇椈椉椊椌椏椑
97C1+C 6913
97CD 椡椢椣
97D0+8 6925
97D8 椮椯椱椲椳椵椶椷椸椺椻椼椾楀楁
97E7+11 6943
97F8 楕楖楘楙楛楜楟
9840 楡楢楤楥楧楨楩楪楬業楯楰楲楳楴極楶楺楻楽楾楿榁榃榅榊榋榌榎榏榐榑榒榓榖榗榙榚
9866+A 699D
9870 榩榪榬榮榯榰榲榳榵榶榸榹榺榼榽
9880 榾榿槀
9883+8 69C2
988B 構槍槏槑槒槓槕槖槗様槙槚槜槝槞
989A+C 69E1
98A6 槮槯槰槱
98AA+A 69F3
98B4 槾
98B5+A 6A00
98BF+C 6A0B
98CB 標樚樛樜樝樞樠樢樣樤樥樦樧権樫樬樭樮樰樲樳樴樶樷樸樹樺樻樼樿橀橁橂橃橅橆
98EF+8 6A48
98F7 橑橒橓橔橕橖橗橚
9940 橜橝橞機橠橢橣橤
9948+B 6A66
9953 橲橳橴橵橶橷橸橺橻橽橾橿檁檂檃
9962+9 6A85
996B 檏檒檓檔檕檖
9971+8 6A98
9979 檡檢檣檤檥檦
9980 檧檨檪
9983+73 6AAD
99F6 欥欦欨欩欪欫欬欭欮
9A40 欯欰欱欳欴欵欶欸欻欼欽欿歀歁歂歄歅歈歊歋
9A54+C 6B4D
9A60+8 6B5A
9A68 歨歩
9A6A+E 6B6B
9A78 歺歽歾歿殀殅殈
9A80 殌殎殏殐殑殔殕殗殘殙殜殝殞殟殠
9A8F+8 6BA2
9A97+8 6BAB
9A9F 殶殸殹殺殻殼殽殾毀毃毄毆毇毈毉毊毌毎毐毑毘毚毜毝毞毟毠
9ABA+8 6BE2
9AC2 毬毭毮毰毱毲毴毶毷毸毺毻毼毾毿氀氁氂氃氄氈氉氊氋氌氎氒気氜氝氞氠氣氥氫氬氭氱氳氶氷氹氺氻氼氾氿汃汄汅汈汋汌汍汎汏汑汒汓汖汘
9B40 汙汚汢汣汥汦汧汫汬汭汮汯汱汳汵汷汸決汻汼汿沀沄沇沊沋沍沎沑沒沕沖沗沘沚沜沝沞沠沢沨沬沯沰沴沵沶沷沺泀況泂泃泆泇泈泋泍泎泏泑泒泘
9B80 泙泚泜泝泟泤泦泧泩泬泭泲泴泹泿洀洂洃洅洆洈洉洊洍洏洐洑洓洔洕洖洘洜洝洟洠洡洢洣洤洦洨洩洬洭洯洰洴洶洷洸洺洿浀浂浄浉浌浐浕浖浗浘浛浝浟浡浢浤浥浧浨浫浬浭浰浱浲浳浵浶浹浺浻浽浾浿涀涁涃涄
9BDB 涆涇涊涋涍涏涐涒涖涗涘涙涚涜涢涥涬涭涰涱涳涴涶涷涹涺涻涼涽涾淁淂淃淈淉淊
9C40 淍淎淏淐淒淓淔淕淗淚淛淜淟淢淣淥淧淨淩淪淭淯淰淲淴淵淶淸淺
9C5D+8 6DFD
9C65 渆渇済渉渋渏渒渓渕渘渙減渜渞渟渢渦渧渨渪測渮渰渱渳渵
9C80 渶渷渹
9C83+8 6E3B
9C8B+8 6E45
9C93 湏湐湑湒湕湗湙湚湜湝湞
9C9E+B 6E60
9CA9 湬湭
9CAB+F 6E6F
9CBA 満溁溂溄溇溈溊溋溌溍溎溑溒溓溔溕準溗溙溚溛溝溞溠溡溣溤溦溨溩溫溬溭溮溰溳溵溸溹溼溾溿滀滃滄滅滆滈滉滊滌滍滎滐滒滖滘滙滛滜滝滣滧滪滫滬滭滮滯
9D40 滰滱滲滳滵滶滷滸
9D48+8 6EFA
9D50 漃漄漅漇漈漊漋漌漍漎漐漑漒
9D5D+A 6F16
9D67 漡漢漣漥漦漧漨漬漮漰漲漴漵漷漸漹漺漻漼漽漿潀潁潂
9D80 潃潄潅潈潉潊潌
9D87+A 6F4E
9D91 潙潚潛潝潟潠潡潣潤潥潧潨潩潪潫潬潯潰潱潳潵潶潷潹潻潽潾潿澀澁澂澃澅澆澇澊澋
9DB6+D 6F8F
9DC3 澝澞澟澠澢澣澤澥澦
9DCC+B 6FA8
9DD7 澴澵澷澸澺澻澼澽澾澿濁濃濄濅濆濇濈濊濋濌濍濎濏濐
9DEF+B 6FD3
9DFA 濟濢濣濤濥
9E40+8 6FE6
9E48+21 6FF0
9E69+8 7012
9E71 瀜瀝瀞瀟瀠瀡瀢瀤瀥瀦瀧瀨瀩瀪
9E80+A 702B
9E8A 瀶瀷瀸
9E8D+12 703A
9E9F 灍灎
9EA1+E 7050
9EAF+C 705F
9EBB 灮灱灲灳灴灷灹灺灻災炁炂炃炄炆炇炈炋炌炍炏炐炑炓炗炘炚炛
9ED7+D 709E
9EE4 炰炲炴炵炶為炾炿烄烅烆烇烉
9EF1+D 70CB
9EFE 烚
9F40 烜烝烞烠烡烢烣烥烪烮烰烱烲烳烴烵烶烸烺烻烼
9F55+B 70FE
9F60 焋焌焍焎焏焑焒焔焗
9F69+B 711B
9F74+8 7127
9F7C 焲焳焴
9F80 焵
9F81+E 7137
9F8F 煆煇煈煉煋煍
9F95+D 714F
9FA2 煝煟煠煡煢煣煥煩煪煫煬煭煯煰煱煴煵煶煷煹煻煼煾煿熀熁熂熃熅熆熇熈熉熋熌熍熎熐熑熒熓熕熖熗熚熛熜熝熞熡熢熣熤熥熦熧熩熪熫熭熮熯熰熱熲熴熶熷熸
9FE7+9 71BA
9FF0+A 71C4
9FFA 燏燐燑燒燓
A040+A 71D6
A04A 燡燢燣燤燦燨燩燪燫燬燭
A055+A 71EF
A05F+C 71FA
A06B+14 7207
A080 爛爜
A082+A 721E
A08C 爩爫爭爮爯爲爳爴爺爼爾牀牁牂牃牄牅牆牉牊牋牎牏牐牑牓牔牕牗牘牚牜牞牠牣牤牥牨牪牫牬牭牰牱牳牴牶牷牸牻牼牽犂犃犅犆犇犈犉犌犎犐犑
A0CB+C 7293
A0D7+C 72A0
A0E3 犮犱犲犳犵犺犻犼犽犾犿狀狅狆狇狉狊狋狌狏狑狓狔狕狖狘狚狛
A1A4 ·
A1AA —
A2A1+A 2170
A6E0 ︵︶︹︺︿﹀︽︾﹁﹂﹃﹄
A6EE ︻︼︷︸︱
A6F4 ︳︴
A840 ˊˋ˙–―‥‵℅℉↖↗↘↙∕∟∣≒≦≧⊿
A854+24 2550
A878 ▁▂▃▄▅▆▇
A880+8 2588
A888 ▓▔▕▼▽◢◣◤◥☉⊕〒〝〞
A8BB ɑ
A8BD ńň
A8C0 ɡ
A940+9 3021
A949 ㊣㎎㎏㎜㎝㎞㎡㏄㏎㏑㏒㏕︰￢￤
A959 ℡㈱
A95C ‐
A960 ー゛゜ヽヾ〆ゝゞ
A968+A FE49
A972 ﹔﹕﹖﹗
A976+9 FE59
A980 ﹢﹣﹤﹥﹦﹨﹩﹪﹫
A996 〇
AA40 狜狝狟狢狣狤狥狦狧狪狫狵狶狹狽狾狿猀猂猄猅猆猇猈猉猋猌猍猏猐猑猒猔猘猙猚猟猠猣猤猦猧猨猭猯猰猲猳猵猶猺猻猼猽
AA76+9 7340
AA80 獉獊獋獌獎獏獑獓獔獕獖
AA8B+8 7358
AA93+B 7361
AA9E 獮獰獱
AB40+C 7372
AB4C 獿玀玁玂玃玅玆玈玊玌玍玏玐玒玓玔玕玗玘玙玚玜玝玞玠玡玣玤玥玦玧玨玪玬玭玱玴玵玶玸玹玼玽玾玿珁珃珄珅珆珇
AB80 珋珌珎珒珓珔珕珖珗珘珚珛珜珝珟珡珢珣珤珦珨珪珫珬珮珯珰珱珳珴珵珶珷
AC40+B 73F8
AC4B 琄琇琈琋琌琍琎
AC52+9 7411
AC5B 琜琝琞琟琠琡琣琤琧琩琫琭琯琱琲琷琸琹琺琻琽琾琿瑀
AC73+C 7442
AC80 瑎瑏瑐瑑瑒瑓瑔瑖瑘瑝
AC8A+D 7460
AC97 瑮瑯瑱瑲瑳瑴瑵瑸瑹瑺
AD40 瑻瑼瑽瑿璂璄璅璆璈璉璊璌璍璏
AD4E+B 7491
AD59 璝
AD5A+8 749F
AD62+10 74AA
AD72+D 74BB
AD80+A 74C8
AD8A+9 74D3
AD93 瓝瓟瓡瓥瓧瓨瓩瓪瓫瓬瓭瓰瓱瓲
AE40 瓳瓵瓸瓹瓺瓻瓼瓽瓾甀甁甂甃
AE4D+8 7505
AE55 甎甐甒甔甕甖甗甛甝甞甠甡產産甤甦甧甪甮甴甶甹甼甽甿畁畂畃畄畆畇畉畊畍畐畑畒畓畕畖畗畘
AE80+8 755D
AE88 畧畨畩畫畬畭畮畯異畱畳畵當畷畺畻畼畽畾疀疁疂疄疅疇
AF40 疈疉疊疌疍疎疐疓疕疘疛疜疞疢疦疧疨疩疪疭疶疷疺疻疿痀痁痆痋痌痎痏痐痑痓痗痙痚痜痝痟痠痡痥痩痬痭痮痯痲痳痵痶痷痸痺痻痽痾瘂瘄瘆瘇
AF80 瘈瘉瘋瘍瘎瘏瘑瘒瘓瘔瘖瘚瘜瘝瘞瘡瘣瘧瘨瘬瘮瘯瘱瘲瘶瘷瘹瘺瘻瘽癁療癄
B040 癅癆癇癈癉癊癋癎癏癐癑癒癓癕癗癘癙癚癛癝癟癠癡癢癤癥癦癧癨癩癪癬癭癮
B062+8 7670
B06A 癹発發癿皀皁皃皅皉皊皌皍皏皐皒皔皕皗皘皚皛
B080+8 769C
B088+9 76A5
B091 皯皰皳
B094+A 76B5
B09E 盀盁盃
B140 盄盇盉盋盌盓盕盙盚盜盝盞盠盡盢監盤
B151+8 76E6
B159 盰盳盵盶盷盺盻盽盿眀眂眃眅眆眊県
B169+B 770E
B174 眛眜眝眞眡眣眤眥眧眪眫
B180 眬眮眰眱眲眳眴眹眻眽眾眿睂睄睅睆
B190+8 7748
B198+8 7752
B1A0 睜
B240 睝睞睟睠睤睧睩睪
B248+C 776D
B254 睺睻睼瞁瞂瞃瞆瞇瞈瞉瞊瞋瞏瞐
B262+C 7793
B26E 瞡瞣瞤瞦瞨瞫瞭瞮瞯瞱瞲瞴瞶瞷瞸瞹瞺
B280 瞼瞾
B282+D 77C0
B28F+9 77CE
B298 矘矙矚矝矞矟矠矡矤
B340 矦矨矪矯矰矱矲矴矵矷矹矺矻矼砃砄砅砆砇砈砊砋砎砏砐砓砕砙砛砞砠砡砢砤砨砪砫砮砯砱砲砳砵砶砽砿硁硂硃硄硆硈硉硊硋硍硏硑硓硔硘硙硚
B380 硛硜
B382+C 785E
B38E+8 786F
B396 硸硹硺硻硽硾硿碀碁碂碃
B440 碄碅碆碈碊碋碏碐碒碔碕碖碙碝碞碠碢碤碦
B453+8 78A8
B45B 碵碶碷碸確碻碼碽碿磀磂磃磄磆磇磈磌磍磎磏磑磒磓磖磗磘
B475+A 78DA
B480 磤磥磦磧磩磪磫磭磮磯磰磱磳磵磶磸磹磻磼磽磾磿礀礂礃礄礆礇礈礉礊礋礌
B540 礍礎礏礐礑礒
B546+A 7914
B550 礟礠礡礢礣
B555+F 7925
B564 礵礶礷礸礹礽礿祂祃祄祅祇
B570+9 794A
B579 祔祕祘祙祡祣
B580 祤祦祩祪祫祬祮祰祱祲祳祴祵祶祹祻祼祽祾祿禂禃禆禇禈禉禋禌禍禎禐禑禒
B640 禓禔禕禖禗禘禙
B647+C 799B
B653+B 79A8
B65E 禴禵禶禷禸禼禿秂秄秅秇秈秊秌秎秏秐秓秔秖秗秙秚秛秜秝秞秠秡秢秥秨秪
B680 秬秮秱秲秳秴秵秶秷秹秺秼秾秿稁稄稅稇稈稉稊稌稏稐稑稒稓稕稖稘稙稛稜
B740 稝稟稡稢
B744+F 7A24
B753 稴稵稶稸稺稾穀穁穂穃穄穅
B75F+A 7A47
B769 穒穓穔穕穖
B76E+11 7A58
B780 穩穪穫穬穭穮穯穱穲穳穵穻穼穽穾窂窅窇窉窊窋窌窎窏窐窓窔窙窚窛窞窡窢
B840 窣窤窧窩窪窫窮窯窰窱窲
B84B+B 7AB4
B856+B 7AC0
B861+A 7ACC
B86B 竗竘竚竛竜竝竡竢竤竧竨竩竪竫竬竮竰竱竲竳
B880 竴竵競竷竸竻竼竾笀笁笂笅笇笉笌笍笎笐笒笓笖笗笘笚笜笝笟笡笢笣笧笩笭
B940 笯笰笲笴笵笶笷笹笻笽笿筀筁筂筃筄筆筈筊筍筎筓筕筗筙筜筞筟筡
B95D+B 7B63
B968 筯筰筳筴筶筸筺筼筽筿箁箂箃箄箆箇箈箉箊箋箌箎箏
B980 箑箒箓箖箘箙箚箛箞箟箠箣箤箥箮箯箰箲箳箵箶箷
B996+8 7BB9
B99E 篂篃範
BA40 篅篈築篊篋篍篎篏篐篒篔篕篖篗篘篛篜篞篟篠篢篣篤篧篨篩篫篬篭篯篰篲篳篴篵篶篸篹篺篻篽
BA69+8 7BFF
BA71 簈簉簊簍簎簐簑簒簓簔簕簗簘簙
BA80 簚簛簜簝簞簠簡簢簣簤簥簨簩
BA8D+D 7C2B
BA9A 簹簺簻簼簽簾籂
BB40+A 7C43
BB4A+25 7C4E
BB6F 籵籶籷籸籹籺
BB75+A 7C7E
BB80 粈粊粋粌粍粎粏粐粓粔粖粙粚粛粠粡粣粦粧粨粩粫粬粭粯粰粴粵粶粷粸粺粻
BC40 粿糀糂糃糄糆糉糋糎糏糐糑糒糓糔糘糚糛糝糞糡糢糣糤糥糦糧糩糪糫糬糭糮
BC61+8 7CF0
BC69 糹糺
BC6B+E 7CFC
BC79 紋紌納紎紏紐
BC80+F 7D11
BC8F 紡紣紤紥紦紨紩紪紬紭紮細紱紲紳紴紵紶
BD40+37 7D37
BD77+8 7D6F
BD80+21 7D78
BE40+D 7D99
BE4D 綧綨綩綪綫綬維
BE54+2B 7DAF
BE80+21 7DDA
BF40+3F 7DFB
BF80 縺縼總績縿繀繂繃繄繅繆
BF8B+16 7E48
C040+24 7E5E
C064+18 7E83
C07C 纜纝纞
C080 纮纴纻纼绖绤绬绹缊缐缞缷缹缻缼缽缾缿罀罁罃
C095+A 7F46
C09F 罒罓
C140 罖罙罛罜罝罞罠罣罤罥罦罧罫罬罭罯罰罳罵罶罷罸罺罻罼罽罿羀
C15C+8 7F82
C164 羋羍羏羐羑羒羓羕羖羗羘羙羛羜羠羢羣羥羦羨義羪羫羬羭羮羱
C180 羳羴羵羶羷羺羻羾翀翂翃翄翆翇翈翉翋翍翏翐翑習翓翖翗翙翚翛翜翝翞翢翣
C240 翤翧翨翪翫翬翭翯翲翴翵翶翷翸翹翺翽翾翿耂耇耈耉耊耎耏耑耓耚耛耝耞耟耡耣耤耫耬耭耮耯耰耲耴耹耺耼耾聀聁聄聅聇聈聉聎聏聐聑聓聕聖聗
C280 聙
C281+E 805B
C28F 聫聬聭聮聯聰
C295+C 8072
C340 聾肁肂肅肈肊肍肎肏肐肑肒肔肕肗肙肞肣肦肧肨肬肰肳肵肶肸肹肻胅胇胈胉胊胋胏胐胑胒胓胔胕胘胟胠胢胣胦胮胵胷胹胻胾胿脀脁脃脄脅脇脈脋
C380 脌脕脗脙脛脜脝
C387+D 811F
C394 脭脮脰脳脴脵脷脹脺脻脼脽脿
C440 腀腁腂腃腄腅腇腉腍腎腏腒腖腗腘腛腜腝腞腟腡腢腣腤腦腨腪腫腬腯腲腳腵腶腷腸膁膃膄膅膆膇膉膋膌膍膎膐膒膓膔膕膖膗膙膚膞膟膠膡膢膤膥
C480 膧膩
C482+8 81AB
C48A 膴膵膶膷膸膹膼膽膾膿臄臅臇臈臉臋臍臎臏臐臑臒臓
C540+F 81D4
C54F 臤臥臦臨臩臫臮臯臰臱臲臵臶臷臸臹臺臽臿舃與興舉舊舋舎舏舑舓舕舖舗舘舙舚舝舠舤舥舦舧舩舮舲舺舼舽舿
C580 艀艁艂艃艅艆艈艊艌艍艎
C58B+8 8250
C593 艙艛艜艝艞
C598+8 8260
C5A0 艩
C640 艪艫艬艭艱艵艶艷艸艻艼芀芁芃芅芆芇芉芌芐芓芔芕芖芚芛芞芠芢芣芧芲芵芶芺芻芼芿苀苂苃苅苆苉苐苖苙苚苝苢苧苨苩苪苬苭苮苰苲苳苵苶苸
C680 苺苼苽苾苿茀茊茋茍茐茒茓茖茘茙
C68F+A 831D
C699 茩茪茮茰茲茷茻茽
C740 茾茿荁荂荄荅荈荊荋荌荍荎荓荕荖荗荘荙荝荢荰荱荲荳荴荵荶荹荺荾荿莀莁莂莃莄莇莈莊莋莌莍莏莐莑莔莕莖莗莙莚莝莟莡莢莣莤莥莦莧莬莭莮
C780 莯莵莻莾莿菂菃菄菆菈菉菋菍菎菐菑菒菓菕菗菙菚菛菞菢菣菤菦菧菨菫菬菭
C840 菮華菳菴菵菶菷菺菻菼菾菿萀萂萅萇萈萉萊萐萒萓萔萕萖萗萙萚萛萞萟萠萡萢萣
C863+8 8429
C86B 萲萳萴萵萶萷萹萺萻
C874+8 843E
C87C 葇葈葉
C880 葊葋葌葍葎葏葐葒葓葔葕葖葘葝葞葟葠葢葤葥葦葧葨葪葮葯葰葲葴葷葹葻葼
C940 葽葾葿蒀蒁蒃蒄蒅蒆蒊蒍
C94B+8 848F
C953 蒘蒚蒛蒝蒞蒟蒠
C95A+D 84A2
C967 蒰蒱蒳蒵蒶蒷蒻蒼蒾蓀蓂蓃蓅蓆蓇蓈蓋蓌蓎蓏蓒蓔蓕蓗
C980 蓘蓙蓚蓛蓜蓞蓡蓢蓤蓧蓨蓩蓪蓫蓭蓮蓯
C991+B 84F1
C99C 蓽蓾蔀蔁蔂
CA40+9 8503
CA49 蔍蔎蔏蔐蔒蔔蔕蔖蔘蔙蔛蔜蔝蔞蔠
CA58+9 8522
CA61+A 852D
CA6B 蔾蔿蕀蕁蕂蕄蕅蕆蕇
CA74+B 854B
CA80 蕗蕘蕚蕛蕜蕝蕟蕠蕡蕢蕣蕥蕦蕧
CA8E+9 8569
CA97 蕳蕵蕶蕷蕸蕼蕽蕿薀薁
CB40 薂薃薆薈薉薊薋薌薍薎
CB4A+B 8590
CB55 薝薞薟薠薡薢薣薥薦薧薩薫薬薭薱薲薳薴薵薶薸薺薻薼薽薾薿藀藂藃藄藅藆藇藈藊藋藌藍藎藑藒
CB80 藔藖藗藘藙藚藛藝藞藟藠藡藢藣藥藦藧藨
CB92+F 85EA
CC40 藹藺藼藽藾蘀蘁蘂蘃蘄
CC4A+B 8606
CC55 蘒蘓蘔蘕
CC59+10 8617
CC69 蘨
CC6A+E 862A
CC78 蘹蘺蘻蘽蘾蘿虀
CC80+C 8641
CC8C 虒虓處虖虗虘虙虛虜虝號虠虡
CC99+8 8663
CD40 虭虯虰虲虳虴虵虶虷虸蚃蚄蚅蚆蚇蚈蚉蚎蚏蚐蚑蚒蚔蚖蚗蚘蚙蚚蚛蚞蚟蚠蚡蚢蚥蚦蚫蚭蚮蚲蚳蚷蚸蚹蚻蚼蚽蚾蚿蛁蛂蛃蛅蛈蛌蛍蛒蛓蛕蛖蛗蛚蛜
CD80 蛝蛠蛡蛢蛣蛥蛦蛧蛨蛪蛫蛬蛯蛵蛶蛷蛺蛻蛼蛽蛿蜁蜄蜅蜆蜋蜌蜎蜏蜐蜑蜔蜖
CE40 蜙蜛蜝蜟蜠蜤蜦蜧蜨蜪蜫蜬蜭蜯蜰蜲蜳蜵蜶蜸蜹蜺蜼蜽蝀蝁蝂蝃蝄蝅蝆蝊蝋蝍蝏蝐蝑蝒蝔蝕蝖蝘蝚蝛蝜蝝蝞蝟蝡蝢
CE72+8 8766
CE7A 蝯蝱蝲蝳蝵
CE80 蝷蝸蝹蝺蝿螀螁螄螆螇螉螊螌螎螏螐螑螒螔螕螖螘螙螚螛螜螝螞螠螡螢螣螤
CF40 螥螦螧螩螪螮螰螱螲螴螶螷螸螹螻螼螾螿蟁蟂蟃蟄蟅蟇蟈蟉蟌蟍蟎蟏蟐蟔蟕蟖蟗蟘蟙蟚蟜蟝蟞蟟蟡蟢蟣蟤蟦蟧蟨蟩蟫蟬蟭
CF75+A 87EF
CF80 蟺蟻蟼蟽蟿蠀蠁蠂蠄蠅蠆蠇蠈蠉
CF8E+8 880B
CF96 蠔蠗蠘蠙蠚蠜蠝蠞蠟蠠蠣
D040+E 8824
D04E 蠳蠴蠵蠶蠷蠸蠺蠻蠽蠾蠿衁衂衃衆衇衈衉衊衋衎衏衐衑衒術衕衖衘衚衛衜衝衞衟衠衦衧衪衭衯衱衳衴衵衶衸衹衺
D080 衻衼袀袃袆袇袉袊袌袎袏袐袑袓袔袕袗袘袙袚袛袝袞袟袠袡袣袥袦袧袨袩袪
D140 袬袮袯袰袲袳袴袵袶袸袹袺袻袽袾袿裀裃裄裇裈裊裋裌裍裏裐裑裓裖裗裚裛補裝裞裠裡裦裧裩裪裫裬裭裮裯裲裵裶裷裺裻製裿褀褁褃褄褅褆複褈
D180 褉褋褌褍褎褏褑褔褕褖褗褘褜褝褞褟褠褢褣褤褦褧褨褩褬褭褮褯褱褲褳褵褷
D240+9 8938
D249 襂襃
D24B+19 8945
D264 襠襡襢襣襤襥
D26A+14 8967
D27E 襼
D280 襽襾覀覂覄覅
D286+1B 8987
D340+1F 89A2
D35F 觃觍觓觔觕觗觘觙觛觝觟觠觡觢觤觧觨觩觪觬觭觮觰觱觲觴觵觶觷觸觹觺
D380 觻觼觽觾觿訁訂訃訄訅訆
D38B+16 8A08
D440+20 8A1E
D460+9 8A3F
D469+16 8A49
D480+1A 8A5F
D49A 詺詻詼詽詾詿誀
D540+8 8A81
D548+8 8A8B
D550+2F 8A94
D580+21 8AC3
D640+23 8AE4
D663+1C 8B08
D680 謤謥
D682+1F 8B27
D740+20 8B46
D760 譧譨譩譪譫
D765+1A 8B6D
D780+19 8B87
D799 讬讱讻诇诐诪谉谞
D840+9 8C38
D849 豂豃豄豅豈豊豋
D850+8 8C4D
D858 豖豗豘豙豛豜豝豞豟豠豣豤豥豦豧豨豩豬豭豮豯豰豱豲豴豵豶豷豻豼豽豾豿貀貁貃貄貆貇
D880 貈貋貍貎貏貐貑貒貓貕貖貗
D88C+15 8C99
D940+3F 8CAE
D980+21 8CED
DA40+F 8D0E
DA4F 贠赑赒赗赟赥赨赩赪赬赮赯赱赲
DA5D+9 8D78
DA66 趂趃趆趇趈趉趌趍趎趏趐趒趓
DA73+A 8D95
DA7D 趠趡
DA80 趢
DA81+D 8DA4
DA8E 趲趶趷趹趻趽跀跁跂跅跇跈跉跊跍跐跒跓跔
DB40 跕跘跙跜跠跡跢跥跦跧跩跭跮跰跱跲跴跶跼跾跿踀踁踂踃踄踆踇踈踋踍踎踐踑踒踓
DB64+8 8E15
DB6C 踠踡踤踥踦踧踨踫踭踰踲踳踴踶踷踸踻踼踾
DB80 踿蹃蹅蹆蹌蹍蹎蹏蹐蹓蹔蹕蹖蹗蹘
DB8F+C 8E5A
DB9B 蹧蹨蹪蹫蹮蹱
DC40 蹳蹵蹷蹸蹹蹺蹻蹽蹾躀躂躃躄躆躈躉躊躋躌躍躎躑躒躓躕躖躗躘躙躚躛躝
DC60+C 8E9F
DC6C 躭躮躰躱躳躴躵躶躷躸躹
DC77+8 8EBB
DC80+B 8EC3
DC8B+16 8ECF
DD40+3F 8EE5
DD80+21 8F24
DE40+21 8F45
DE61 轪辀辌辒辝辠辡辢辤辥辦辧辪辬辭辮辯農辳辴辵辷辸辺辻込辿迀迃迆
DE80 迉迊迋迌迍迏迒迖迗迚迠迡迣迧迬迯迱迲迴迵迶迺迻迼迾迿逇逈逌逎逓逕逘
DF40 這逜連逤逥逧逨逩逪逫逬逰週進逳逴逷逹逺逽逿遀遃遅遆遈遉遊運遌過達違遖遙遚遜遝遞遟遠遡遤遦遧適遪遫遬遯遰遱遲遳遶遷選遹遺遻遼遾邁
DF80 還邅邆邇邉邊邌邍邎邏邐邒邔邖邘邚邜邞邟邠邤邥邧邨邩邫邭邲邷邼邽邿郀
E040 郂郃郆郈郉郋郌郍郒郔郕郖郘郙郚郞郟郠郣郤郥郩郪郬郮郰郱郲郳郵郶郷郹郺郻郼郿鄀鄁鄃
E068+14 9105
E07C 鄚鄛鄜
E080 鄝鄟鄠鄡
E084+B 9124
E08F 鄰鄲鄳鄴鄵鄶鄷鄸
E097+9 913A
E0A0 酄
E140 酅酇酈酑酓酔酕酖酘酙酛酜酟酠酦酧酨酫酭酳酺酻酼醀醁醂醃醄醆醈醊醎醏醓醔醕醖醗醘醙醜醝醞醟醠醡醤醥醦醧醨醩醫醬醰醱醲醳醶醷醸醹醻
E180+B 91BC
E18B 釈釋釐
E18E+A 91D2
E198+9 91DD
E240+3F 91E6
E280+21 9225
E340+2E 9246
E36E+11 9275
E380+8 9286
E388+19 928F
E440 銨銩銪銫銬銭
E446+19 92AF
E45F+20 92C9
E480+21 92E9
E540+34 930A
E574+B 933F
E580+20 934A
E5A0 鍫
E640+23 936C
E663+1C 9390
E680+1E 93AC
E69E 鏋鏌鏍
E740+8 93CE
E748+37 93D7
E780+21 940E
E840+F 942F
E84F+2C 943F
E87B 鑬鑭鑮鑯
E880+15 9470
E895 钑钖钘铇铏铓铔铚铦铻锜锠
E940 锧锳锽镃镈镋镕镚镠镮镴镵
E94C+8 9577
E954+2B 9580
E980+21 95AB
EA40+1C 95CC
EA5C 闬闿阇阓阘阛阞阠阣阤阥阦阧阨阩阫阬阭阯阰阷阸阹阺阾陁陃陊陎陏陑陒陓陖陗
EA80 陘陙陚陜陝陞陠陣陥陦陫陭陮陯陰陱陳
EA91+D 9678
EA9E 隇隉隊
EB40 隌階隑隒隓隕隖隚際
EB49+A 969D
EB53+8 96A8
EB5B 隱隲隴隵隷隸隺隻隿雂雃雈雊雋雐雑雓雔
EB6D+A 96D6
EB77 雡離難雤雥雦雧雫
EB80 雬雭雮雰雱雲雴雵雸雺電雼雽雿霂霃霅霊霋霌霐霑霒霔霕霗霘霙霚霛霝霟霠
EC40+9 9721
EC49 霫霬霮霯霱霳霴霵霶霷霺霻霼霽
EC57+13 973F
EC6A 靔靕靗靘靚靜靝靟靣靤靦靧靨
EC77+8 976A
EC80 靲靵靷靸靹靺靻
EC87+8 977D
EC8F 鞆鞇鞈鞉鞊鞌鞎鞏鞐鞓鞕鞖鞗鞙鞚鞛鞜鞝
ED40 鞞鞟鞡鞢鞤鞥鞦鞧鞨鞩鞪鞬鞮鞰鞱鞳
ED50+2F 97B5
ED80 韤韥韨韮韯韰韱韲韴
ED89+18 97F7
EE40+3F 980F
EE80+21 984E
EF40 顯顰顱顲顳顴颋颎颒颕颙颣
EF4C+26 98A8
EF72 飏飐飔飖飗飛飜飝飠飡飢飣飤
EF80 飥飦
EF82+1F 98E9
F040 餈餉養餋餌餎餏
F047+1D 9911
F064+1B 992F
F080+A 994A
F08A+D 9956
F097 饤饦饳饸饹饻饾馂馃馉
F140 馌馎
F142+B 999A
F14D 馦馧
F14F+30 99A9
F180+21 99D9
F240+3F 99FA
F280+21 9A39
F340+12 9A5A
F352 驲骃骉骍骎骔骕骙骦骩骪骫骬骭骮骯骲骳骴骵骹骻骽骾骿髃髄髆髇髈髉髊髍髎髏髐髒體髕髖髗髙髚髛髜
F380 髝髞髠髢髣髤髥髧髨髩髪髬髮
F38D+9 9AF0
F396 髺髼髽髾髿鬀鬁鬂鬄鬅鬆
F440 鬇鬉鬊鬋鬌鬍鬎鬐鬑鬒
F44A+B 9B14
F455 鬠鬡鬢
F458+B 9B24
F463 鬰鬱
F465+8 9B33
F46D 鬽鬾鬿魀魆魊魋魌魎魐魒魓魕魖魗魘魙魚
F480+21 9B5B
F540+3F 9B7C
F580+21 9BBB
F640+3F 9BDC
F680+21 9C1B
F740+3F 9C3C
F780 鱻鱽鱾鲀鲃鲄鲉鲊鲌鲏鲓鲖鲗鲘鲙鲝鲪鲬鲯鲹鲾鲿鳀鳁鳂鳈鳉鳑鳒鳚鳛鳠鳡
F840+3F 9CE3
F880+21 9D22
F940+3F 9D43
F980+21 9D82
FA40+3F 9DA3
FA80+21 9DE2
FB40+1C 9E03
FB5C 鸤鸧鸮鸰鸴鸻鸼鹀鹍鹐鹒鹓鹔鹖鹙鹝鹟鹠鹡鹢鹥鹮鹯鹲
FB74+A 9E74
FB7E 麀
FB80 麁麃麄麅麆麉麊麌麍麎麏麐麑
FB8D+9 9E94
FB96 麞麠麡麢麣麤麥麧麨麩麪
FC40+9 9EAB
FC49 麵麶麷麹麺麼麿黀黁黂黃黅黆黇黈黊黋黌黐黒黓黕黖黗黙黚點黡黣黤黦黨黫黬黭黮
FC6D+9 9EF0
FC76 黺黽黿鼀鼁鼂鼃鼄鼅
FC80 鼆鼇鼈鼉鼊鼌鼏鼑鼒鼔鼕鼖鼘鼚鼛鼜鼝鼞鼟鼡
FC94+9 9F23
FC9D 鼭鼮鼰鼱
FD40 鼲鼳鼴鼵鼶鼸鼺鼼鼿齀齁齂齃
FD4D+B 9F45
FD58+27 9F52
FD80 齹齺齻齼齽齾龁龂
FD88+C 9F8D
FD94 龜龝龞龡龢龣龤龥郎凉秊裏隣
FE40 兀嗀﨎﨏﨑﨓﨔礼﨟蘒﨡﨣﨤﨧﨨﨩"

end SongSheet
