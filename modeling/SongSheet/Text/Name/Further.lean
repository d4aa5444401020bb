/-!
# Further names

Names that code points have beside their first one: those of controls, corrected ones,
abbreviations. The table is written as `CodePoint.named?` reads it.
-/

set_option autoImplicit false

namespace SongSheet

/-- Further names of code points. -/
def furtherNames : String :=
"0=0NUL;0=0NULL;1=0SOH;1=0START OF HEADING;2=2TEXT;2=0STX;3=0END OF TEXT;3=0ETX
4=0END OF TRANSMISSION;4=0EOT;5=0ENQ;5=0ENQUIRY;6=0ACK;6=0ACKNOWLEDGE;7=0ALERT;7=0BEL;8=0BACKSPACE
8=0BS;9=0CHARACTER TABULATION;9=0HORIZONTAL TABULATION;9=0HT;9=0TAB;a=0END OF LINE;a=0EOL;a=0LF
a=0LINE FEED;a=0NEW LINE;a=0NL;b=0LINE TABULATION;b=0VERTICAL TABULATION;b=0VT;c=0FF;c=0FORM FEED
d=0CARRIAGE RETURN;d=0CR;e=0LOCKING-SHIFT ONE;e=0SHIFT OUT;e=0SO;f=0LOCKING-SHIFT ZERO;f=0SHIFT IN
f=0SI;10=0DATA LINK ESCAPE;10=0DLE;11=0DC1;11=0DEVICE CONTROL ONE;12=0DC2;12=0DEVICE CONTROL TWO
13=0DC3;13=0DEVICE CONTROL THREE;14=0DC4;14=0DEVICE CONTROL FOUR;15=0NAK;15=0NEGATIVE ACKNOWLEDGE
16=0SYN;16=0SYNCHRONOUS IDLE;17=0END OF TRANSMISSION BLOCK;17=0ETB;18=0CAN;18=0CANCEL
19=0END OF MEDIUM;19=0EOM;1a=0SUB;1a=0SUBSTITUTE;1b=0ESC;1b=0ESCAPE;1c=0FILE SEPARATOR;1c=0FS
1c=0INFORMATION SEPARATOR FOUR;1d=0GROUP SEPARATOR;1d=0GS;1d=0INFORMATION SEPARATOR THREE;1e=2TWO
1e=0RECORD SEPARATOR;1e=0RS;1f=0INFORMATION SEPARATOR ONE;1f=0UNIT SEPARATOR;1f=0US;20=0SP;7f=0DEL
7f=0DELETE;80=0PAD;80=0PADDING CHARACTER;81=0HIGH OCTET PRESET;81=0HOP;82=0BPH
82=0BREAK PERMITTED HERE;83=0NBH;83=0NO BREAK HERE;84=0IND;84=0INDEX;85=0NEL;85=0NEXT LINE;86=0SSA
86=0START OF SELECTED AREA;87=0END OF SELECTED AREA;87=0ESA;88=0CHARACTER TABULATION SET
88=0HORIZONTAL TABULATION SET;88=0HTS;89=0CHARACTER TABULATION WITH JUSTIFICATION
89=0HORIZONTAL TABULATION WITH JUSTIFICATION;89=0HTJ;8a=0LINE TABULATION SET
8a=0VERTICAL TABULATION SET;8a=0VTS;8b=0PARTIAL LINE DOWN;8b=2FORWARD;8b=0PLD
8c=0PARTIAL LINE BACKWARD;8c=2UP;8c=0PLU;8d=0REVERSE INDEX;8d=1LINE FEED;8d=0RI;8e=0SINGLE SHIFT TWO
8e=0SINGLE-SHIFT-2;8e=0SS2;8f=0SINGLE SHIFT THREE;8f=0SINGLE-SHIFT-3;8f=0SS3;90=0DCS
90=0DEVICE CONTROL STRING;91=0PRIVATE USE ONE;91=1USE-1;91=0PU1;92=0PRIVATE USE TWO;92=1USE-2
92=0PU2;93=0SET TRANSMIT STATE;93=0STS;94=0CANCEL CHARACTER;94=0CCH;95=0MESSAGE WAITING;95=0MW
96=0SPA;96=0START OF GUARDED AREA;96=2PROTECTED AREA;97=0END OF GUARDED AREA;97=2PROTECTED AREA
97=0EPA;98=0SOS;98=0START OF STRING;99=0SGC;99=0SINGLE GRAPHIC CHARACTER INTRODUCER;9a=0SCI
9a=0SINGLE CHARACTER INTRODUCER;9b=0CONTROL SEQUENCE INTRODUCER;9b=0CSI;9c=0ST;9c=0STRING TERMINATOR
9d=0OPERATING SYSTEM COMMAND;9d=0OSC;9e=0PM;9e=0PRIVACY MESSAGE;9f=0APC
9f=0APPLICATION PROGRAM COMMAND;a0=0NBSP;ad=0SHY;1a2=0LATIN CAPITAL LETTER GHA;1a3=1SMALL LETTER GHA
34f=0CGJ;61c=0ALM;709=0SYRIAC SUBLINEAR COLON SKEWED LEFT;cde=0KANNADA LETTER LLLA
e9d=0LAO LETTER FO FON;e9f=3FAY;ea3=2RO;ea5=2LO;fd0=0TIBETAN MARK BKA- SHOG GI MGO RGYAN
11ec=0HANGUL JONGSEONG YESIEUNG-KIYEOK;11ed=2YESIEUNG-SSANGKIYEOK;11ee=2SSANGYESIEUNG
11ef=2YESIEUNG-KHIEUKH;180b=0FVS1;180c=0FVS2;180d=0FVS3;180e=0MVS;180f=0FVS4;200b=0ZWSP;200c=0ZWNJ
200d=0ZWJ;200e=0LRM;200f=0RLM;202a=0LRE;202b=0RLE;202c=0PDF;202d=0LRO;202e=0RLO;202f=0NNBSP
205f=0MMSP;2060=0WJ;2066=0LRI;2067=0RLI;2068=0FSI;2069=0PDI;2118=0WEIERSTRASS ELLIPTIC FUNCTION
2448=0MICR ON US SYMBOL;2449=1DASH SYMBOL
2b7a=0LEFTWARDS TRIANGLE-HEADED ARROW WITH DOUBLE VERTICAL STROKE
2b7c=0RIGHTWARDS TRIANGLE-HEADED ARROW WITH DOUBLE VERTICAL STROKE;a015=0YI SYLLABLE ITERATION MARK
aa6e=0MYANMAR LETTER KHAMTI LLA;fe00=0VS1;fe01=0VS2;fe02=0VS3;fe03=0VS4;fe04=0VS5;fe05=0VS6
fe06=0VS7;fe07=0VS8;fe08=0VS9;fe09=0VS10;fe0a=0VS11;fe0b=0VS12;fe0c=0VS13;fe0d=0VS14;fe0e=0VS15
fe0f=0VS16;fe18=0PRESENTATION FORM FOR VERTICAL RIGHT WHITE LENTICULAR BRACKET;feff=0BOM
feff=0BYTE ORDER MARK;feff=0ZWNBSP;122d4=0CUNEIFORM SIGN NU11 TENU;122d5=3OVER NU11 BUR OVER BUR
16e56=0MEDEFAIDRIN CAPITAL LETTER H;16e57=3NG;16e76=1SMALL LETTER H;16e77=3NG
1b001=0HENTAIGANA LETTER E-1;1d0c5=0BYZANTINE MUSICAL SYMBOL FTHORA SKLIRON CHROMA VASIS;e0100=0VS17
e0101=0VS18;e0102=0VS19;e0103=0VS20;e0104=0VS21;e0105=0VS22;e0106=0VS23;e0107=0VS24;e0108=0VS25
e0109=0VS26;e010a=0VS27;e010b=0VS28;e010c=0VS29;e010d=0VS30;e010e=0VS31;e010f=0VS32;e0110=0VS33
e0111=0VS34;e0112=0VS35;e0113=0VS36;e0114=0VS37;e0115=0VS38;e0116=0VS39;e0117=0VS40;e0118=0VS41
e0119=0VS42;e011a=0VS43;e011b=0VS44;e011c=0VS45;e011d=0VS46;e011e=0VS47;e011f=0VS48;e0120=0VS49
e0121=0VS50;e0122=0VS51;e0123=0VS52;e0124=0VS53;e0125=0VS54;e0126=0VS55;e0127=0VS56;e0128=0VS57
e0129=0VS58;e012a=0VS59;e012b=0VS60;e012c=0VS61;e012d=0VS62;e012e=0VS63;e012f=0VS64;e0130=0VS65
e0131=0VS66;e0132=0VS67;e0133=0VS68;e0134=0VS69;e0135=0VS70;e0136=0VS71;e0137=0VS72;e0138=0VS73
e0139=0VS74;e013a=0VS75;e013b=0VS76;e013c=0VS77;e013d=0VS78;e013e=0VS79;e013f=0VS80;e0140=0VS81
e0141=0VS82;e0142=0VS83;e0143=0VS84;e0144=0VS85;e0145=0VS86;e0146=0VS87;e0147=0VS88;e0148=0VS89
e0149=0VS90;e014a=0VS91;e014b=0VS92;e014c=0VS93;e014d=0VS94;e014e=0VS95;e014f=0VS96;e0150=0VS97
e0151=0VS98;e0152=0VS99;e0153=0VS100;e0154=0VS101;e0155=0VS102;e0156=0VS103;e0157=0VS104
e0158=0VS105;e0159=0VS106;e015a=0VS107;e015b=0VS108;e015c=0VS109;e015d=0VS110;e015e=0VS111
e015f=0VS112;e0160=0VS113;e0161=0VS114;e0162=0VS115;e0163=0VS116;e0164=0VS117;e0165=0VS118
e0166=0VS119;e0167=0VS120;e0168=0VS121;e0169=0VS122;e016a=0VS123;e016b=0VS124;e016c=0VS125
e016d=0VS126;e016e=0VS127;e016f=0VS128;e0170=0VS129;e0171=0VS130;e0172=0VS131;e0173=0VS132
e0174=0VS133;e0175=0VS134;e0176=0VS135;e0177=0VS136;e0178=0VS137;e0179=0VS138;e017a=0VS139
e017b=0VS140;e017c=0VS141;e017d=0VS142;e017e=0VS143;e017f=0VS144;e0180=0VS145;e0181=0VS146
e0182=0VS147;e0183=0VS148;e0184=0VS149;e0185=0VS150;e0186=0VS151;e0187=0VS152;e0188=0VS153
e0189=0VS154;e018a=0VS155;e018b=0VS156;e018c=0VS157;e018d=0VS158;e018e=0VS159;e018f=0VS160
e0190=0VS161;e0191=0VS162;e0192=0VS163;e0193=0VS164;e0194=0VS165;e0195=0VS166;e0196=0VS167
e0197=0VS168;e0198=0VS169;e0199=0VS170;e019a=0VS171;e019b=0VS172;e019c=0VS173;e019d=0VS174
e019e=0VS175;e019f=0VS176;e01a0=0VS177;e01a1=0VS178;e01a2=0VS179;e01a3=0VS180;e01a4=0VS181
e01a5=0VS182;e01a6=0VS183;e01a7=0VS184;e01a8=0VS185;e01a9=0VS186;e01aa=0VS187;e01ab=0VS188
e01ac=0VS189;e01ad=0VS190;e01ae=0VS191;e01af=0VS192;e01b0=0VS193;e01b1=0VS194;e01b2=0VS195
e01b3=0VS196;e01b4=0VS197;e01b5=0VS198;e01b6=0VS199;e01b7=0VS200;e01b8=0VS201;e01b9=0VS202
e01ba=0VS203;e01bb=0VS204;e01bc=0VS205;e01bd=0VS206;e01be=0VS207;e01bf=0VS208;e01c0=0VS209
e01c1=0VS210;e01c2=0VS211;e01c3=0VS212;e01c4=0VS213;e01c5=0VS214;e01c6=0VS215;e01c7=0VS216
e01c8=0VS217;e01c9=0VS218;e01ca=0VS219;e01cb=0VS220;e01cc=0VS221;e01cd=0VS222;e01ce=0VS223
e01cf=0VS224;e01d0=0VS225;e01d1=0VS226;e01d2=0VS227;e01d3=0VS228;e01d4=0VS229;e01d5=0VS230
e01d6=0VS231;e01d7=0VS232;e01d8=0VS233;e01d9=0VS234;e01da=0VS235;e01db=0VS236;e01dc=0VS237
e01dd=0VS238;e01de=0VS239;e01df=0VS240;e01e0=0VS241;e01e1=0VS242;e01e2=0VS243;e01e3=0VS244
e01e4=0VS245;e01e5=0VS246;e01e6=0VS247;e01e7=0VS248;e01e8=0VS249;e01e9=0VS250;e01ea=0VS251
e01eb=0VS252;e01ec=0VS253;e01ed=0VS254;e01ee=0VS255;e01ef=0VS256"

end SongSheet
