/-!
Names of characters, for the blocks of letters, punctuation, symbols and pictographs in common use,
and the usual names of control characters.
-/

namespace CodeReview.Text

/-- Signs for the words and groups of words that names have most often. -/
def nameSigns : String :=
  "!#$%&()*+,./<>?@[]^_|~"

def nameSignRows : String :=
  "WITH;ARROW;LEFT;AND;RIGHT;LETTER;SIGN;SMALL;DOUBLE;SYMBOL;ABOVE;FACE;WHITE;RIGHTWARDS;BLACK
CAPITAL;HEAVY;LEFTWARDS;DOWN;BELOW;CIRCLE;STROKE"

/-- Words and groups of words that names often have, in alphabetical order. They stand after
semicolons, unless they start with a digit, which is for so many characters of the one before. -/
def nameWordRows : String :=
  "ABKHASIAN1CCENT2TIVATE3UALLY2UTE1IRPLANE1LMOST EQUAL TO2PHA1MPERSAND1ND HORIZONTAL4VARIA
4YPOGEGRAMMENI2GLE5 BRACKET2TICLOCKWISE4RESTRICTION1PL FUNCTIONAL2OSTROPHE2PROXIMATE9TELY1RC3HAIC
2ROW-TAIL5HEAD9S5S1SCENDING2TERISK2YMPTOTICALLY1UTOMOBILE;BABY2CK4HAND4SLANTED SOUTH7SH2LL4OON
7-SPOKED5T2R3B3RED O1ELL2SIDE2TWEEN2VERAGE1ICYCLIST2LABIAL1LACK-FEATHERED6LETTER2OCK2UE1OLD2OK4MARK
2TTLE4OM2WTIE2X1RACKET2EVE2IDGE3GHTNESS2OKEN1UBBLE2ILDING8S2LLET2T3TON1YELORUSSIAN-UKRAINIAN I
CALENDAR2MERA2NCELLATION2R3D3ET3ON2STLE2T1EDILLA2NTRE6D1HARACTER4T2E3CK3SS KING2ICK2RISTMAS1IRCLED
4ULAR ARC5MFLEX2TYSCAPE1LICK3NKING2OCK5WISE3SED3UD1OLD SWEAT3ON2MBINING3MA4ERCIAL3POSITION2NSTANT
5RUCTION3TAIN AS7ING7S4OUR2PRODUCT3YRIGHT2RNER2VERING1RESCENT2OSS5BONES5ED5HATCH5ING2YING1URL4Y
5 BRACKET3RENCY6T3VED2SP1YRILLIC;DAGGER2SH4ED3IA1ECIMAL3ORATION2GREE2LIMITER3TA2PARTING2SCENDER7ING
3KTOP1IAERESIS3GONAL3LYTIKA3MOND2GAMMA3IT3RAPH2RECTLY2SAPPOINTED2VIDE6D BY4SION1OCUMENT2ES NOT2LLAR
2T3 BELOW3LESS3S3TED2UBLE-LINE7STRUCK6D2WN-POINTING4WARDS1RAUGHTS2OPLET;EARTH1IGHT5H6S1LECTRIC
3MENT OF3VEN2LIPSE6IS1MBEDDING2PTY1ND OF2TRY2VELOPE1PSILON1QUAL5 TO5S6 SIGN3ILATERAL4VALENT TO
1RASE TO THE1TA1UROPEAN1XCLAMATION MARK2TENSION1YES;FALLING1EMALE1IFTY2LE3L2NGER6S2RE3ST2SH4HOOK2VE
1LAG3TBREAD4TENED2ORAL4ETTE3WER2YING1OLDER2NT SIZE2OD3TBALL2R3M2UNTAIN3R1RACTION2OM BAR3WNING1ULL
2NCTION;GAMMA1EOMETRICALLY1HE1IBBOUS1LASS2OTTAL STOP1RAVE5 ACCENT2EATER7-THAN3EK4N2INNING;HAIR2LF
4 BLACK5RING2MMER2ND4S3GZHOU2RD3POON7 WITH BARB9ITH BARB UP1EAD4ED4STONE3RT5-SHAPED5S2XAGON1IGH
4-REVERSED-92RAGANA1OCKEY STICK2LDING2MOTHETIC2OK2RIZONTAL3N3SE2URGLASS3SE1UNDRED1YPHEN6-MINUS;ICE
1DENTICAL3OGRAPHIC1MAGE OF1NDEX3ICATOR2FINITY3ORMATION2HIBIT2SERTION3IDE2TEGRAL7TION4RIOR5LACED
5SECTION2VERSE5TED8 BREVE1OTA3IFIED1SOLATE1TERATION;JAPANESE1OINED5R2T;KAPPA2TAKANA8-HIRAGANA1EY
3BOARD1ISSING1NIFE1OPPA2RONIS;LANE MERGE2RGE5R THAN2TIN1EAF2FT-POINTING5TO-RIGHT2G2NTICULAR2SS-THAN
2TTERS1IGATURE3HT5 AND5NING2NE2TTLE YUS1OCK3OMOTIVE2GICAL2NG2OP2W3ER5ED2ZENGE1UNATE SIGMA;MACHINE
3RON2ILBOX2LE2N2RK2THEMATICAL1EASURED2DIUM2MBER1ICROPHONE2DDLE2LITARY2NUS1OBILE PHONE2DIFIER2NKEY
2ON2UNTAIN3SE3TH1ULTIMAP5PLICATION2SICAL;N-ARY1ATIONAL1EGATED5IVE2ITHER2PTUNE2WSPAPER1INE1O-BREAK2R
3MAL SUBGROUP3TH5 EAST6WEST2T3 EQUAL TO3CHED3E4S1UMBER3ERAL;OCLOCK2TAGON1F1GONEK1MEGA2ICRON
1N PEDESTAL2COMING2E1PEN4-HEADED4ING3RATOR2TICAL DISC1R EQUAL TO2ANGE2DINAL2IGINAL2NAMENT1UTER JOIN
3LINED1VER4BAR4LAPPING6Y5INE4RIDE1XIA;PAGE2IRED ARROWS2LOCHKA2PER2RAGRAPH4LLEL3ENTHESIS3TY
2TH AROUND POLE1ENCIL3TAGON6RAM2RCENT4USSIVE3ISPOMENI3PENDICULAR3SON6AL COMPUTER2TALLED1ICTURE2ECE
2LCROW2NWHEEL2TCHFORK1LACE5 MEDAL3STICS2US4 SIGN1NEUMATA1OINT5ED6R5ING8 INDEX2LICE2P DIRECTIONAL
2SITION3T OFFICE4AL2UTING1RECEDE7S6ING3GNANT2IME3NTER2ODUCT3PELLER4ORTION3SGEGRAMMENI1SILI
1UNCTUATION2SHPIN;QUAD4RANT5UPLE3RTER7S2ESTION8 MARK2OTATION MARK;RACQUET2ILWAY3N3SED1ECEIVER
3TANGLE4ILINEAR2D2LATION3IEVED2TROFLEX3URN2VERSE7D3OLVING1HO1IBBON2CE2GHT-POINTING6SHADOWED6TO-LEFT
2NG2SING1OMAN2SETTE2TATED2UNDED CORNERS;SAFETY2LTIRE2MPI2NS-SERIF2TELLITE1CHWA2ISSORS2REEN3IPT
1ECTION2MI-VOICED4CIRCLE8ULAR5OLON4DIRECT2PARATOR2RIFS2VEN1HADE4OWED3PING3RP2ELL FLOPPY DISK2OE
3PPING3RT5S1IDEWAYS2GMA2LHOUETTE2MILAR2NGLE6-LINE2X1KULL1LANTED3SH2EEPING1MALLER THAN2ILING
1NOWFLAKE4MAN1OFT2LIDUS2UND5 MARK3RCE3TH EAST1PACE3RKLE2EAKER3ECH2HERICAL2LAYED1QUARE6 BRACKET6D6S
3IGGLE1TAMPED3R2EM2ILE2OP2RAIGHT3OKES1UBSCRIPT4ET2CCEED2IT2MMATION2N3GLASSES2PERSCRIPT6ET1YMBOLS
3METRIC SWAPPING;TABULATION2CK2IL1EARDROP-SPOKED4S2LEPHONE2N2XT1HE3N CURVING3RMOMETER3TA2OUGHT4SAND
8S2REE5-D3OUGH2UMBS UP3NDER1ICK2GHTLY-CLOSED2LDE5 OPERATOR2MES2P1O BAR2NE4 MARK3OS2P3-LIGHTED
2RTOISE SHELL1RAFFIC2EE2IANGLE8-HEADED9HEADED ARROW6ULAR3PLE2OPICAL2UCK1URNED4STILE1WELVE2O3-HEADED
4WAY;U-SHAPED1KRAINIAN IE1MBRELLA1NDERBAR5LINE5TIE2ION3VERSAL RECYCLING1P AND3LIGHT3TACK2-POINTING
2PER2SILON2WARDS;VARIA1ERTICAL8 BAR9LINE9STROKE1ICTORY1OICED1RACHY1ULGAR FRACTION;WATER2VE4S
1EDGE-TAILED2ST1HEEL5CHAIR1IGGLY FENCE2ND2TH DOT8 ABOVE5GRAVE5HOOK5OPEN MOUTH5PSILI5TONOS4OUT1OMAN
5S1RITING;YANG1POGEGRAMMENI;Z NOTATION1ERO1IGZAG"

/-- Pairs of words; a name with the first word often comes before the one with the second. -/
def nameCounterpartRows : String :=
  "LOWER UPPER;WEST EAST;UPWARDS DOWNWARDS;EAST WEST;TOP BOTTOM;RIGHT LEFT;UP DOWN
PRECEDES SUCCEEDS;SUBSET SUPERSET;LESS-THAN GREATER-THAN;LEFTWARDS RIGHTWARDS;PSILI DASIA
CAPITAL SMALL;LEFT RIGHT;BLACK WHITE;WHITE BLACK;LIGHT HEAVY;TWO THREE;LEFT-POINTING RIGHT-POINTING
AND OR;GRAVE ACUTE;DOWN UP"

/-- Entries `code point : name`; one without a code point belongs to the next code point. An entry
stands after a semicolon, unless it starts with a digit or `=`. Two lower-case letters in a name are
the place of words among those that names often have, as a number to the base of 26. The code points
are such numbers too. A sign in a name stands for its words, and the other words are spelled out. A
digit at the start stands for so many words of the last name that is not `=`, and `=` for the
counterpart of that name. -/
def characterNameRows : String :=
  "bg:ve;hn;sg;ot);gc);qj);ai;ar;$qd=;bb;qz;dz;kq;iuvt;uz;ftzy1pd1ya=1iq1ib1up1tz1gq1oh;dx;tv;mk)
hh;jf);sf;eaAT;me@(A3B3C3D3E3F3G3H3I3J3K3L3M3N3O3P3Q3R3S3T3U3V3W3X3Y3Z;$vl;stuz;&vl;doab;mxmq;jd
me*(A3B3C3D3E3F3G3H3I3J3K3L3M3N3O3P3Q3R3S3T3U3V3W3X3Y3Z;$ev;yv;&ev;xd;ge:oive;lihn;CENT);POUND);ew)
YEN);clbn;tr);fo;ej);FEMININEplkw;mg+amsg;oo);uykp;REGISTERED);nd;fh);PLUS-MINUS);wdya=;aeab;MICRO)
qs);nngd;dc;wdpd;MASCULINEplkw;sz+amsg;zapdsc3jk2wwsd;lisf;me@(Azm5ae5do5xd5fo5tc.3AE3C!dc3Ezm5ae
5do5fo3Izm5ae5do5fo3ETH3N!xd3Ozm5ae5do5xd5fo;ny);me@(O!~3Uzm5ae5do5fo3Y!ae3THORN1*(udS3Azm=5do5xd
5fo5tc.3AE3C!dc3Ezm=5do5fo3Izm=5do5fo3ETH3N!xd3Ozm=5do5xd5fo;fz);me*(O!~3Uzm=5do5fo3Y!ae3THORN3Y!fo
1@(A!nd=5ci=5oy=3C!ae=5do=4zl=5cz=3D!cz=5~=3E!nd=5ci=4zl=5oy=5cz=3G!do=5ci=4zl=5dc=3H!do=5~=3I!xd=
5nd=5ci=5oy=4zl1*(gfI1@mmIJ=2(J!do=3K!dc=1*(KRA1@(L!ae=5dc=5cz=5nngd=5~=3N!ae=5dc=5cz=
1*(N PRECEDED BYar1@(ENG=3O!nd=5ci=5+ae=2mmOE=2(R!ae=5dc=5cz=3S!ae=5do=5dc=5cz=3T!dc=5cz=5~=3U!xd=
5nd=5ci=5tc.=5+ae=5oy=3W!do=3Y!do=5fo3Z!ae=4zl=5cz=1*(mvS3B!~1@(Bzn5TOPBAR=3xiup=3peO3Czn=
3AFRICAN D3Dzn5TOPBAR=1*(xxfj1@(suE3tn3peE3Fzn=3Gzn3iw1*(HV1@(lk3I!~3Kzn=1*(L!bn3LAMBDA!~1@(xxM
3N!$ki1*(N!mv&mi1@(O!nnxd5kk=3OI=3Pzn=1(YR1@(xiya=3ESH1(suESHmw1*(T!PALATALki1@(Tzn=5srki3U!kk=3yq
3Vzn3Yzn=3Z!~=3EZH4su=1*(EZH!wj1(ya!~1@(xiib=1(lijb!~2WYNN2DENTALdq2LATERALdq2ALVEOLARdq2srdq
1@(DZ!cz3D!*(Z!cz1*(DZ!cz1@(LJ3L!*(J1*(LJ1@(NJ3N!*(J1*(NJ1@(A!cz=3I!cz=3O!cz=3U!cz=5fo%nd=7ae=7cz=
7jc=1*(xxE1@(A!fo%nd=4zl%nd=3AE!nd=3G!~=5cz=3K!cz=3O!oy=6%nd=3EZH!cz=1*(J!cz1@(DZ3D!*(Z1*(DZ1@(G!ae
=3HWAIR3WYNN3Nzm=3A!tc.%ae=3AE!ae=3O!~%ae=3A!+jc=5lj=3E!+jc=5lj=3I!+jc=5lj=3O!+jc=5lj=3R!+jc=5lj=
3U!+jc=5lj=3S!dz_=3T!dz_=3YOGH=3H!cz=3N!mv&mi1*(D!et1@(OU=3Zzn=3Azl=3E!dc=3O!fo%nd=5xd%nd=4zl=7%nd=
3Y!nd=1*(L!et3N!et3T!et3gfJ3DBfu3QPfu1@(A!~3C!~=3L!bn3T!fp~1*(S!SWASHwj3Z!SWASHwj1@(jb=3B!~3Ubn3xxV
3E!~=3J!~=3*Qznwj1*(Qznwj1@(R!~=3Y!~=1*(xxA3ah3xxah3Bzn3peO3C!et3D!wj4zn3suE3tn4zn3peE3supeE6zn
3dusupeE3gfJ!~3Gzn3tqG1(*@G1*(iw3RAMSkk3xxH3Hzn3HENGzn3I!~3lk1(*@I1*(L!nnxd5BELT5srki3LEZH3xxM
5!mvmi3Mzn3N!$ki5srki1(*@N1*(bp1(*@OE1*(duoz3PHI3xxR5!mvmi5zn3R!mvmi5wj5ia3suR!ia1(*@R4liR1*(Szn
3ESH3gfJ!~%ki3SQUATsuESH3ESH!et3xxT3T!srki3Ubn3yq3Vzn3xxV4W4Y1(*@Y1*(Z!srki5et3EZH4!et1(jb
2PHARYNGEALyyFRICATIVE2lijb2STRETCHED C2bvdq2*@B1*(dupeE1(*@Gzn4H1*(J!CROSSED-TAIL3xxK1(*@L1*(Qzn
1(jb!~2sujb!~1*(DZfu3DEZHfu3DZfu!et3TSfu3TESHfu3TCfu!et3FENGfu3LSfu3LZfu1(bvqk2BIDENTALqk1*(xxH!ia
7%wj;nr(*H4zn3J3R3xxR5zn3@liR3W3Y2rq2+rq2xxdz2ar2sudz2&jm=2jb2sujb2$ax=2UPax=2doab;cz;nr(yv2nd2aeab
2jd2mxyv3nd3jd=2xtdx2jkxtdx2de&jm=2yn=2qz2np);ci;gd.;tc.;oy;*xd;+aeab;nr(RHOTICki2enab2*iw3L3S3X
3sujb2EXTRA-HIGHxibn2kcxibn2MIDxibn2mxxibn2EXTRA-LOWxibn2YINfkxj2zvfkxj2VOICING2UNASPIRATED2+ar
2mx^ax=3$ax=3tc2nnjd3+jd=2mxxd2skdx2BEGINkcxi2ENDkcxi2BEGINmxxi2ENDmxxi2SHELF2peSHELF2mx$#;dyjd=
1doab1xd1nd1pu1ci1gd.1fo1ki.1tc.1+aeab1cz1yv.1+yv.2jd1CANDRABINDU1lj1xxdz.1dz.1sudz.1dz.&1jd_=1$wi_
=2am.1kk1$jm_1yn_=1qz_1np)_1PALATALIZEDki_1srki_1ge1fo_1tc_1dz_1dc1oy1yv_1cj_1li+ARCH_1cz_1doab_
1ci_1lj_1xd_1nd_1mxmq1+mxmq1xdpt1uh~pt1mv~pt1uhuzpt1mvuzpt1&jm_1licj_1vk_1SEAGULL_1X.1ytxd1+pu1jcxj
=1jgql2ma2fqxk2zw1cj.1hh_1+yv_1$am_1ooxd.1kh.1ag.1$&#_1yr#_1GRAPHEMElq1&ax.1$jm.1FERMATA1X_1$ax_=
1&ax%UPax_2jm.1gd.&1bb_1+tc_1zz.1+ci_32nd3_2xd2lj2>#_1me*(A4E4I4O4U4C4D4H4M4R4T4V4X;jg@(HETA=3avtk=
1ou)1myou)1@(PAMPHYLIANfs=;big:1zw1*sunb,2ghnb,2sughnb,1sf1@(YOT;biq:1xk1fqxk1@(ahzq1ANO TELEIA
1@(hdzq3hlzq3lkzq;biy:3pazq;bja:3yqzq3ozzq1*(lk!fq%xk1@(ah3BETA3iw3fj3hd3ZETA3hl3ws3lk3ls3LAMDA3MU
3NU3XI3pa3PI3sw;bjv:3uk3TAU3yq3PHI3CHI3PSI3oz3lk!fq3yq!fq1*(ahzq3hdzq3hlzq3lkzq3yq!fq%xk3ah3BETA3iw
3fj3hd3ZETA3hl3ws3lk3ls3LAMDA3MU3NU3XI3pa3PI3sw3FINALuk3uk3TAU3yq3PHI3CHI3PSI3oz3lk!fq3yq!fq3pazq
3yqzq3ozzq1@KAI,1BETA,1ws,1yqzn,3ae%ki,3fo%ki,1PHI,1PI,1KAI,1(avlz1*(avlz1(STIGMA1*(STIGMA1(fs1*(fs
1(lz1*(lz1(tk1*(tk;COPTIC@(SHEI=3FEI=3KHEI=3HORI=3GANGIA=3SHIMA=3DEI=;jgls,1sw,1nb,1(YOT1@ws,
1LUNATEhd,1suLUNATEhd,1@(SHO=2nb,2(SAN=1sw!~,1@sunb,2ghnb,2sughnb,;fa@(IEzm3IO3DJE3GJE3ye3DZE3cs3YI
3JE3LJE3NJE3TSHE3KJE3Izm3uhU3DZHE3A3BE3VE3iy3DE3IE3ZHE3ZE3I3uhI3KA3EL3EM3EN3O3PE3ER3ES3TE3U3EF3HA
3TSE3dh3SHA3SHCHA3jr)3YERU3uy)3E3YU3YA1*(A3BE3VE3iy3DE3IE3ZHE3ZE3I3uhI3KA3EL3EM3EN3O3PE3ER3ES3TE3U
3EF3HA3TSE3dh3SHA3SHCHA3jr)3YERU3uy)3E3YU3YA3IEzm3IO3DJE3GJE3ye3DZE3cs3YI3JE3LJE3NJE3TSHE3KJE3Izm
3uhU3DZHE1@(oz=3YAT=3llE=3mr=3llmr=3BIG YUS=3llBIG YUS=3KSI=3PSI=3FITA=3IZHITSA=4!+jd=3UK=3ROUNDoz=
3oz!TITLO=3OT=3lz=1wv);dyfaTITLO2PALATALIZATION2fera2rwra2POKRYTIE2kowv)2MILLIONS);fa@(uhI!wj=
3SEMISOFT)=3ER!xb=3iy!UPTURN=5~=5nnki=3ZHE!fl=3ZE!fl=3KA!fl=5yw=5~=3BASHKIR KA=3EN!fl=2mmENiy=
2(PE!nnki=3aaHA=3ES!fl=3TE!fl=3vuU=5!~=3HA!fl=2mmTE TSE=2(dh!fl=5yw=3SHHA=3aadh=5!fl=1(pz1@(ZHE!ci=
3KAzn=3EL!wj=3ENzn=5wj=3KHAKASSIANdh=3EM!wj=1*(pz1@(A!ci=5fo=2mmA IE=2(IE!ci=3tn=4!fo=3ZHE!fo=
3ZE!fo=3aaDZE=3I!nd=5fo=3O!fo=3bp=5!fo=3E!fo=3U!nd=5fo=5+ae=3dh!fo=3iy!fl=3YERU!fo=3iy!~%ki=3HAzn=
5~=3KOMI DE=4DJE=4ZJE=4DZJE=4LJE=4NJE=4SJE=4TJE=3suZE=3ELzn=3LHA=3RHA=3YAE=3QA=3WE=3ALEUT KA=
3EL!nnki=3EN!nnki=3PE!fl=3SHHA!fl=3EN!$ki=3DZZHE=3DCHE=3EL!fl=;ljk:me@(A!tc_=3Bzl=6_=5mq_=3C!dc%ae=
3Dzl=6_=5mq_=5dc=5do_=3E!nd%jc=7ae=5do_=5xd_=5dc%ci=3Fzl=3G!nd=3Hzl=6_=5fo=5dc=5ci_=3I!xd_=5fo%ae=
3K!ae=5ge=5mq_=3L!ge=7%nd=5mq_=5do_=3M!ae=4zl=6_=3Nzl=6_=5mq_=5do_=3O!xd%ae=7fo=5nd%jc=7ae=3P!ae=
4zl=3Rzl=6_=7%nd=5mq_=3Szl=6_=5ae%gd.=5cz%gd.=5ge%gd.=3Tzl=6_=5mq_=5do_=3U!fo_=5xd_=5do_=5xd%ae=
5nd%fo=3V!xd=5ge=3Wzm=5ae=5fo=4zl=6_=3Xzl=5fo=3Yzl=3Z!do=5ge=5mq_=1*(H!mq_3T!fo3W!tc.3Y!tc.3A!&jm
3mvSzl6fp~6kc~1@(udS1*(fj1@(A!ge=4zn.=5do%ae=7jc=7ki.=7xd=7ge=5ci%ae=7jc=7ki.=7xd=7ge=3E!ge=4zn.=
5xd=5do%ae=7jc=7ki.=7xd=7ge=3Izn.=5ge=3O!ge=4zn.=5do%ae=7jc=7ki.=7xd=7ge=5kk%ae=7jc=7ki.=7xd=7ge=
3U!ge=4zn.=5kk%ae=7jc=7ki.=7xd=7ge=3Yzm=5ge=4zn.=5xd=3MIDDLE-WELSH LL=4V=3Y!mw=;jg*(ahzp=6ak=7pw=
7ql=1@(ahzp=6ak=7pw=7ql=1*(hdzp=6ak=7pw=;lue:1@(hdzp=6ak=7pw=;lum:1*(hlzp=6ak=7pw=7ql=1@(hlzp=6ak=
7pw=7ql=1*(lkzp=6ak=7pw=7ql=1@(lkzp=6ak=7pw=7ql=1*(pazp=6ak=7pw=;lwa:1@(pazp=6ak=7pw=;lwi:1*(yqzp=
6ak=7pw=7ql=;lwr:1@(yq!fe;lwt:6ak;lwv:7pw;lwx:7ql1*(ozzp=6ak=7pw=7ql=1@(ozzp=6ak=7pw=7ql=1*(ah!ys
5pw3hd!ys5pw3hl!ys5pw3lk!ys5pw3pa!ys5pw3yq!ys5pw3oz!ys5pw;lye:3ahzpal=6akal=7pwal=7qlal=1@(ahzp%rv=
6ak%rv=7pw%rv=7ql%rv=1*(hlzpal=6akal=7pwal=7qlal=1@(hlzp%rv=6ak%rv=7pw%rv=7ql%rv=1*(ozzpal=6akal=
7pwal=7qlal=1@(ozzp%rv=6ak%rv=7pw%rv=7ql%rv=1*(ah!yz5nd5ysal5zw5pwal;mag:5ql6al1@(ah!yz5nd5ys5pw5rv
1ma1rv1rw1ql1fq%ql1*(hl!ysal5zw5pwal;maw:5ql6al1@(hd!ys5pw3hl!ys5pw5rv1rwak3pw3ql1*(lk!yz5nd5fqak
7pw;mbm:5ql5fq%ql1@(lk!yz5nd5ys5pw;mbt:1feak3pw3ql1*(yq!yz5nd5fqak7pw3swzp=3yq!ql5fq%ql1@(yq!yz5nd
5ys5pw3sw!fe1fqak3pw1ys;mco:1*(oz!ysal5zw5pwal;mcs:5ql6al1@(pa!ys5pw3oz!ys5pw5rv1pw1fe;mdc:ENrz
EMrz;ENve;EMve;THREE-PER-EMve;FOUR-PER-EMve;SIX-PER-EMve;FIGUREve;rxve;THINve;jjve;zyWIDTHve
2NON-JOINER2lq;mhnh;tbnh;kp;NON-BREAKINGkp;FIGUREfc;ENfc;EMfc;kjbn;+yv1mxmq;$unsg=;unLOW-9sg1kdsg
$+sg=;+LOW-9sg1kdsg;fb;+fb;cp;xtcp;pdgdLEADER;yagdLEADER;kjgx;HYPHENATIONrb;mqtx;qbtx;mhgy;tbgy
rhFORMATTING;mhpv;tbpv;NARROWoive;PER MILLE)1wnwu);rq;+rq;xurq;surq1+rq1xurq;cy;unmgamsg=
REFERENCEnh;+hn;INTERROBANG;pu;yi;dfTIE;cylarb;ASTERISM;kpcp;irus;$vl!QUILL=;+sf;sehn;EXCLAMATIONsf
TIRONIAN)ET;suqs);?]cp=;mxbb;sutv;CLOSE UP;yaASTERISKS ALIGNED VERTICALLY;eanp);SWUNGfc;liyi;ihrxnh
wwgdrx;sbrq;iqgdrx;ibgdrx;yagdrx;iqgdnh;ghen;TRICOLON;ytiqgg;nknive;WORDlq;ivAPPLICATION
INVISIBLExf1tx1qy;mha:mhlm;tblm;hySTRONGlm;rhlm;kzwg;acwg;kzARABICiouc;acARABICiouc;obftSHAPES
NOMINALftSHAPES;wdzy1me*(I;mho:1iq1ib1up1tz1gq1oh1qz1np1hh1$qd=1me*(N;vwzy1pd1ya=1iq1ib1up1tz1gq1oh
1qz1np1hh1$qd=;miq:mevw*(A4E4O4X4tn4H4K4L4M4N4P4S4T;mjg:EURO-CURRENCY);dx);CRUZEIRO);FRENCH FRANC)
LIRA);MILL);NAIRA);PESETA);RUPEE);WON);NEW SHEQEL);DONG);EURO);KIP);TUGRIK);DRACHMA);GERMAN PENNY)
PESO);GUARANI);AUSTRAL);HRYVNIA);CEDI);LIVRE TOURNOIS);SPESMILO);TENGE);INDIAN RUPEE);TURKISH LIRA)
NORDICnh);MANAT);RUBLE);LARI);BITCOIN);SOM);mmy:ACCOUNTox;ADDRESSED TOwpSUBJECT;gj@C;fhCELSIUS
ddmq,;CAREox;CADA UNA;EULERec;SCRUPLE;fhFAHRENHEIT;tq*G1@H;bx@H;gj@H;PLANCKec2pqyaPI;tq@I;bx@I;tq@L
=;L Bbn,;gj@N;NUMERO);vaRECORDINGej;tq@P;gj@P2Q;tq@R;bx@R;gj@R;PRESCRIPTION TAKE;RESPONSE;SERVICEnh
wm);TRADEnh);VERSICLE;gj@Z;OUNCE);OHM);liOHM);bx@Z;xxjg*(lk;KELVIN);ANGSTROM);tq@B;bx@C;ESTIMATED,
tq*E1@E2F;xx@F;tq@M1*O;ALEF,;BET,;GIMEL,;DALET,;kyvc;tg@Q;FACSIMILE);gj*PI2iw1@iw2PI1oawa;xxtl@G3L
sutl@L;xxtl@Y;gjITALIC@D=2*E3I3J;PROPERTYmq;xxai;PER);AKTIESELSKAB;xx*F;,inSAMARITANvc;zapdSEVENTH
3NINTH3TENTH3THIRD2yaTHIRDS2pdFIFTH2yaFIFTHS=2iqFIFTHS2pdSIXTH2ibSIXTHS2pdgr2wwgs2ibgs2tzgs
irNUMERATORpd;teoupd2ya=2iq2ib2up2tz2gq2oh2wn2gv2xz2hs2pdko2ibko2pdwu;*teoupd3ya=3iq3ib3up3tz3gq3oh
3wn3gv3xz3hs3pdko3ibko3pdwu;teoupdwuC D2ibwu2wnwu2supdko;me*(suC;teouupLATEio2hsEARLYio3wu2pdkowu
zazyTHIRDS;xxftya=;msm:]#;yr#;>#;gm#;$&#;UP^#;on#=;vd#=;]#!~=1zc#=1yajw#;yryajw#;>yajw#;gmyajw#
]#!wj=2is;yr#is;>#is;gm#is;UP^#!BASE;]#zn=3mw=;$&zc#2#!~;gmzz#;yr#!xg]4>;gm#!xg]=;>#!ekgm;gm#!ek]
aoxltt#;dtxltt#;on#TOmvbn;]#xhpq>#xh;aope|#;dtpe|#;]jtyr=;yrjt>4];>jtyr=;gmjt>4];>#pq]#;yr#]OFgm#
]#pq>#1py;yrpy;>py;gmpy;]jspq>js;>jspq]js;]+#!~;$&+#!~;>+#!~;]+#;yr+#;>+#;gm+#;$&+#;UP^+#;on+#=
vd+#=;]xu#=1vo#=;yr#!+~=;]fd#;yrfd#;>fd#;gmfd#;]#xh=1<#;yr<#;><#;gm<#;yr<#is3pb5!kjbn6yu2+#4pb
><#FROM WALL;on#TOek;vd#TOek;UP^<#;&#!*|;gm#]OFyr#;ww>az;]#!yw=;$&#!yw;]#!+yw=;$&#!+yw;]pf#=;$&pf#
inALL;COMPLEMENT;PARTIAL DIFFERENTIAL;THERE EXISTS1gbEXIST;gzSET;INCREMENT;NABLA;gu;ooANgu;*gu
egASnl;gbeenl;*egASnl;haPROOF;oars1ei1wa;np);MINUS-OR-PLUS);gdqy;fzus;SETnp;bbph;tcph;cpph;vkROOT
CUBE ROOT;FOURTH ROOT;PROPORTIONAL TO;kx;&am;am;njam;viam;DIVIDES;gbfx;qcTO;ooqcTO;mu%=;lg;yj;lc
+lc;xulc;ehlc;SURFACElc;VOLUMElc;dtlc1ehlc;aoehlc;THEREFORE;BECAUSE;RATIO;ru;gdnp;EXCESS
GEOMETRICru;kh;xe;suxd;liLAZY S;SINEzc;WREATHrs;ooxd;npxd;bchf;oobchf;athf1cqooadhf;oeatojadhf;ag
ooag;ALMOSThepj;xuxd;ALLhf;hj;ixhj;DIFFERENCEbs;APPROACHESwpLIMIT;ixhf;athfORwpku;kuORathf;dxhg
hgdx;tcINhf1hf;CORRESPONDS TO;ESTIMATES;EQUIANGULAR TO;vqhg;fjhf;hfBY DEFINITION;njBY;QUESTIONEDhf
op;ksTO;ooksTO;STRICTLYhj;mkpj=1pqhf=1cqop=;MUCHmk=;bs;oohj1mk=;oemkojhf=;mkORhj=;oemkojhj=;mkORjf
jfORmk;oemkojjf1jfojmk;rn=1pj=2hj=;gbrm2vy;vxOF=;ooAvxOF=;vxOFpj=;oeAvxOFojhf=;vxOF!op=;MULTISET1ny
1yj;vkku1pmOF1kupj1pmOFpj1CAP1CUP;dmqy1np1xf1fzus1gdph1tcph1bbph1hg1fc;vmqy1np1xf1gdph;&wi=;^wi=
ASSERTION;MODELS;TRUE;FORCES;xuyu&xy;+yu+&xy;gbPROVE;ooTRUE;gbFORCE;oc+yu+&xy;rnUNDERsp=;okOF
egASok;okOFpj;egASokpj;pmOF;ku;nx;HERMITIAN CONJUGATE MATRIX;INTERCALATE;XOR;NAND;oj;&am!au1xq
oamu%=1lg1yj;frph;gdph;vqph;fzxf;cf;$NORMAL FACTORtwrs=1twrs=;suxdhg;eumuOR2%;+vx=1lg1yj;qu;he%qcTO
mkzk=;VERY MUCHmk=;mkhfORjf;jfhfORmk;hfORmk=3rn=;gbrmORhe2vyORhe;oovkkupj2pmOFpj;vkkuORop1pmoxORop
mkcqoohj=;rncqoohj=;oookOF;gbeeok;oookOFpj;gbeeokORhe;ytgx;MIDLINEkjgx;UP&fpgx;^&fpgx;gu!mvkj~
3yuAThakj~;*gu!yuAThakj~;guzl3pr;*gu!pr;gu!yg3yakjvv;eg!mvkj~2yuAThakj~;*eg!yuAThakj~;eg!pr;*eg!pr
zxBAG MEMBERSHIP;DIAMETER);gt#;kn;UPax=;PROJECTIVE;PERSPECTIVE;WAVYmq;$CEILING=1FLOOR=;ce&CROP=
xl&CROP1$CROP;suoo);vkna;au;SEGMENT;SECTOR;wmRECORDER;rikw;VIEWDATAvk;qvoxINTEREST);xxoo);WATCH;km
xl$ek1&ek;ce$ek=;xljklc=;FROWN;SMILE;UPaxbsyakjBARS;OPTIONlv;hk&;X IN Asmcg;lw;mgan=;hk$;BENZENEtc
CYLINDRICITY;ALL AROUND-PROFILE;SYMMETRY;TOTAL RUNOUT;DIMENSION ORIGIN;CONICAL TAPER;SLOPE
COUNTERBORE;COUNTERSINK;aq,I-BEAM3SQUISHrz3rzhe4fx4fr4lr4|3|vs4lr3usbn3bibn3rzus4bi4mk=3]VANE=3rz]#
=3|bi3^wiyg3fjvs3rz^cy4fj3^wilr3yrVANE3rzyr#3ynpr3DELvs3rzUPcy4DEL3ynlr3gmVANE3rzgm#3QUOTEyg3fjyg
3fryg3lryg3|yg3UPuflr3QUOTErz3|vq3rzdx3ynfo3DELfo3vqfo3lrfo3|fo3^ufvs3$ufvs3xdfo3jffo3dzbn3DELxd
3ZILDE3vsxd3tvyg3rzoohe4se3^cyxd=3lk3sw3oz3ahyg3hdyg3lkyg3ozyg3ah;oodinh;&am!gmzz#;SHOULDEREDpecg
bq,;yv!nngd;la,;CONTINUOUSyh,;DISCONTINUOUSyh,;EMPHASIS,;eb,;<vk!ddyv;ENTER,;ALTERNATIVElv,;HELM,
dmkjbn!NOTCH1xq^;cl|!NORTHWEST#;UNDO,;MONOSTABLE,;HYSTERESIS,;OPEN-CIRCUIT-OUTPUT H-TYPE,1L-TYPE,
PASSIVE-PULL-DOWN-OUTPUT,;PASSIVE-PULL-UP-OUTPUT,;DIRECTex,ioya;SOFTWARE-FUNCTION,;aq,rz;fftxlv,
PREVIOUSpx;NEXTpx;PRINTtp,;CLEARtp,;$qdypki2ho2myki;&qdypki2ho2myki;$vlypek3ho3myek;&vlypek3ho3myek
$evypki3nnqr3myki;evho;&evypki3nnqr3myki;lcho;kjmqho;yp$ORmy&evtr1&ORmy$evtr;waxl=;xlvl=;cevlpqxlvl
RADICAL,ce;$ytcgmq=;kjSCAN LINE-12LINE-32LINE-72LINE-9;DENTISTRY,mnyt%xl&=4!|3^aj!|3UPaj!|3yt!xq
3^aj!xq3UPaj!xq3yt%zc3^aj!zc3UPaj!zc3^aj3UPaj3yt%xl$=;vkFOOT;ss,;EJECT,;yvho;METRICALci1mvpquh
1uhpqmv1mvpqyaui1yauipqmv3lp1TRISEME1TETRASEME1PENTASEME;gpGROUND;FUSE;xlqd=1ev=1xnch=;<TRAPEZIUM
BENZENEtc!|;STRAIGHTNESS;FLATNESS;ACex;ELECTRICALlg;ffEXPONENT,;?sz+xq1mg+xq1yo+xq1gl+xq1sz+xq!yu
1mg+xq!yu1szxq!+yu;ALARMds;STOPWATCH;TIMERds;km!FLOWING SAND;?nkmgxq2szxq2yoxq2glxq;+yu;?vkinvt
1|inRECORD;POWER,1ON-OFF,1ON,1SLEEP,;OBSERVER EYE,;oai:cgDRAWINGSmnkj=3yt=3xufckj=5yt=3sbfckj=5yt=
3^%&2^mo&[3[%&mn2[^%&2mn^%$2^mo$[3[%$mn2[^%$2mnyl&2ym%&[3[%&mn2[yl&2mnyl$2ym%$[3[%$mn2[yl$2mnyt%&
2ytmo&[2UP[%&^mn2^[%&ym2yt[%&mn2^mo&UP[2ym%&^[2[yt%&2mnyt%$2ytmo$[2UP[%$^mn2^[%$ym2yt[%$mn2^mo$UP[
2ym%$^[2[yt%$2mn^aj2$[%&^mn2&[%$^mn2^mnaj[3[ajmn2&mo$^[2$mo&^[2[^aj2mnUPaj2$[%&ym2&[%$ym2ymaj[
3[ajmn2&mo$UP[2$mo&UP[2[UPaj2mnytaj2$[%&ytmn2&[%$ytmn2ytmnaj[2UP[%^kjmn2^[%UPkjmn2yt[ajmn2$UP[%&^mn
2&UP[%$^mn2$^[%&ym2&^[%$ym2^moUPkj[2ym%^kj[2&mo$yt[2$mo&yt[2[ytaj2mn+fckj=5yt=2+kj3yt2^un%&+3+%&un
2+^%&2^un%$+3+%$un2+^%$2UPun%&+3+%&un2+yl&2UPun%$+3+%$un2+yl$2ytun%&+3+%&un2+yt%&2ytun%$+3+%$un
2+yt%$2^unaj+3+ajun2+^aj2UPunaj+3+ajun2+UPaj2ytunaj+3+ajun2+ytaj2mnau^%&=4yl$6&3fpyp&TOmy$5$TOmy&
4en3$3UP3&3^2[$3UP3&3^2mn$%[&3yl[^2[$%mn&3ylmn^;ypjkby;mypdgrby2scby1wwgsby1jkby1ibgsby1wwsdby
1tzgsby;iuby;$tzgsby1wwsdby1ibgsby1jkby1wwgsby1pdscby2grby;&jkby;mnua;nkua;DARKua;yppdgrby;&pdgrby
samy$2&1yp$3%my$%my&5&4yp&%my$8&2&3%my$6%my&;?vk=;<vk!th2ef?*vk;vk!kjhu2ythu2ORTHOGONALeqhu
2yp$TOmy&hu3&TOmy$hu2fpeqhu;?*vk=1sm=1ytsm=1PARALLELOGRAM=1yoxq=2*xq=1szxq=2*xq=2rd=1glxq=2*xq=
1mgxq=2*xq=2rd=1fr=;<fref?*fr;FISHEYE;na;<|;gh|;|!ythu;BULLSEYE;?|;|!$jl=2myjl=2yp&sa?2ALLcqyp$sa?
$jl|=;lhcp1<|;ypjklh<|;myjklh<|;yp$sadn=;my&sadn1$sadn;ypjk|;myjk|;?my&xq2$xq=1yp&xq;<cp;vk!$jl=
2yp$fpjl2my&fpjl;<vk!ytBISECTINGmq1yoxqzk;yoxq!$jl=;mc|;<vk!yp$sa3my$sa4&sa=1|!yp$sa3my$sa4&sa=
yp$xq=;my$xq;<nkvk=2*vk=;my&xq;?wb!RAYS;dv;yf;ux;COMET;?vq=;mp;THUNDERSTORM;wb;baNODE;fmNODE
CONJUNCTION;OPPOSITION;?wm=;bmcg2!di3X;tj;yf!sjDROPS;HOTbt;<SHOGIqr=;SHAMROCK;sutgifjycp;?$rf=;<$rf
1UPrf1&rf1^rf;uq%eo;CAUTION);RADIOACTIVE);BIOHAZARD);CADUCEUS;ANKH;ORTHODOXen;CHIsw;enoxLORRAINE
2JERUSALEM;vq%em;FARSI,;ADI SHAKTI;jn%SICKLE;PEACE,;YINzv;TRIGRAMinHEAVEN2LAKE2hx2xa2zj2zb2nu2gp
zgoxDHARMA;<it/1uv/=1wb!RAYS;hyscnt;LASTscnt;MERCURY;hr);gp;nf);JUPITER;SATURN;URANUS;of;PLUTO
ARIES;TAURUS;GEMINI;CANCER;LEO;VIRGO;LIBRA;SCORPIUS;SAGITTARIUS;CAPRICORN;AQUARIUS;PISCES;<dj2QUEEN
2ROOK2BISHOP2KNIGHT2PAWN;?dj2QUEEN2ROOK2BISHOP2KNIGHT2PAWN1SPADEvz;<jyvz1frvz;?CLUBvz;<SPADEvz
?jyvz1frvz;<CLUBvz;HOT SPRINGS;scor;gror;BEAMEDgros1SIXTEENTHos;MUSIC FLAT)1NATURAL)1ud);zfSYRIACen
=;yk,;RECYCLING,inTYPE-1qx3TYPE-2qx3TYPE-3qx3TYPE-4qx3TYPE-5qx3TYPE-6qx3TYPE-7qx3GENERIC MATERIALS
?yk,;RECYCLEDqa,;PARTIALLY-RECYCLEDqa,;PERMANENTqa);zh,;DIE FACE-11FACE-21FACE-31FACE-41FACE-5
1FACE-6;<|zk&3yagg;?|!<gd&3ya<gg;MONOGRAMinzv2YIN;DIGRAMinjezv2LESSER YIN3zv2jeYIN;<ic=;jn%PICK
ANCHOR;epSWORDS;STAFFoxAESCULAPIUS;SCALES;ALEMBIC;ih;GEAR;STAFFoxHERMES;ATOM,;FLEUR-DE-LIS;pp<vq
wwLINES CONVERGING&=;WARNING);kcVOLTAGE);gkhr)1nf);INTERLOCKEDhr%nf);nf%hr)1!~)3%nf%hr);ytnf!~)
kjnf!~);nk<|=1*<|;MARRIAGE,;DIVORCE,;UNMARRIED PARTNERSHIP,;COFFIN;FUNERAL URN;NEUTER;CERES;PALLAS
JUNO;VESTA;CHIRON;?ntLILITH;SEXTILE;SEMISEXTILE;QUINCUNX;SESQUIQUADRATE;SOCCERbj;BASEBALL;vmlv
<gnng2KING;?gnng2KING;uxzrSNOW;wbBEHINDdv;sj;?ux;xadv%sj;xx<SHOGIqr=;<frINvk;erLANES;DISABLEDcw
OPHIUCHUS;PICK;cwSLIDING;HELMET!<en;dmerLANES;CHAINS;NOhb;ALTERNATE ONE-WAY$WAYxo;?yc$WAYxo
<yc$WAYxo;?$mb;<$mb;DRIVE SLOW);[<glxq;$duhb;vmtj;hqfpIN<|IN?vk;?xw;RESTRICTED$ENTRY-12ENTRY-2
ASTRONOMICAL,inURANUS;[|!~%yagg.;qi;RIGHT-HANDEDlfqi;LEFT-HANDEDlfqi;liqi;?enON SHIELD
SHINTO SHRINE;CHURCH;da;HISTORIC SITE;GEARzrHUB1!HANDLES;MAP,inLIGHTHOUSE;nu;yfON GROUND;ip
icIN HOLE;FERRY;SAILBOAT;vkiqCORNERS;SKIER;krSKATE;qn!bj;TENT;loBANK,;jxGRAVEYARD,;FUEL PUMP
CUP ON?vk;<ic!kjnn?STRIPE;?tito;ypBLADEto;?to;myBLADEto;<to1[dinh;wmLOCATION);TAPE DRIVE;af;hc
skFIST1jo;yxjo;zujo;my&qg;qg;yp&qg;<NIB=;dinh;[dinh;nyX;[nyX;bmX;[bmX;ppjgen;[jgen;pedden;[pedden
meen;ub<meen;ppmeen;MALTESEen;vqoxDAVID;iqwkbb1blbb;[iqblbb;iqCLUB-SPOKEDbb;?iqrcvq=;SPARKLES
STRESSpp<vq;dm<vq;pedd?vq;?dd<vq;pp?vq;[pp?vq;qtvq;ub<vq;[bb;peddbb;gqSPOKEDbb1rc?vq2qtvq;uprc?vq
gqrcsn?vq;[gqrcsn?vq;xzrc?vq;SIXTEENrcbb;wkbb;peddwkbb;[wkbb;upqp?%<ig;?ig=;gqqppp?ig;dmpeddgqrcvq
[wkqtbb;uw;TIGHT TRIFOLIATEuw;[CHEVRONuw;vf;[vf;blbb;gqwkrtbb;[gqwkrtbb;ennh;ub<|;odvmennh
my&DROP-SHADOWED<vk=2ub<vk=;?sfpn=;<hnpn;?frnp<X;[hn,;mnyu;nkyu;[yu1unxxdzsgpn2dzsgpn1+xxdzsgpn
2dzsgpn1mxundzsgpn2+dzsgpn;eyvrqb)pn;[hnpn1jyhnpn1?jy;tg[?jycp;ifjy;tgifjycp;nk$qdpn=1ie$qdpn=
1mganpn=;[mgamsgpn=2anpn=;mn$xnchpn=;nk$evpn=;DINGBAToddmftpd4ya=4iq4ib4up4tz4gq4oh3otwn1dmtlftpd
4ya=4iq4ib4up4tz4gq4oh3otwn1oddmtlftpd5ya=5iq5ib5up5tz5gq5oh4otwn;[WIDE-HEADED>#1qz1np)1fz)1vd#1>#
1om#;DRAFTINGrb>#;[ROUND-TIPPED>#;xr>#;[xr>#;fdxr>#;[fdxr>#;?>#;wxxm>ax1BOTTOM-LIGHTED>ax;?>ax
[?eygm%>#3yr%>#;SQUAT?>#;[CONCAVE-POINTED?>#;RIGHT-SHADED<>#;LEFT-SHADED<>#;BACK-TILTEDub<>#
FRONT-TILTEDub<>#;[myta<>#=;oqmyta<>#;eumw;oqypta<>#;dm[<>#;WHITE-FEATHERED>#;bwvd#1>#1om#;[bwvd#
2>#2om#;TEARDROP-BARBED>#;[TEARDROP-SHANKED>#;ze>#;[ze>#;OPEN-OUTLINED>#;+eumw;wwDIMENSIONALam
<xqef*<xq;qm;pevx=;$S-SHAPED BAGfi=;ORzklb;stuzrovx;werouz;yu!kj~;nitdfp;mvfz;nihqfp;vmmu%=
<fr!degd;%zk;gupgyr;my&ekzk;yp$ekzk;$po=;iupo;mcyn=;$%&+xy3wi1nx;mv&wi=;yn!|.;nafykjRULE
<CONCAVE-SIDEDfr3!]xb=1vk!]xb=;ni$<vl=2an=2+an=2<xnch=2ieqd=;yrsb#=;aoGAPPED|#;dtGAPPED|#;&#!dmqy
mv]#=1$&#1]+#=1$&+#1]#is=2+#is=1>vo#;pns:>yb#!yw4+yw;]+#!yw=;$&+#!yw;>yb#is;]+#is=;gm#!kj~;yr#!kj~
1xu#=;]+fc#=1xufc#=;>ybxufc#1#!ghvr;yr#xh=;>#!wj!yw5+yw1yb#!wj5!yw6+yw;]aw=1+aw=1#TO?fr=2isTO?fr=
on%vd#;om%SOUTHzf#;on#zn=;vd#zn=;on#%om#;om#%vd#;vd#%SOUTHzf#1zf#%on#;tdfperhqfp;hqfpertdfp
vd#erom#;om#ervd#;hqfperom#;tdfpervd#;om#eron#;on#erom#;zc#refv&;#re>wqyr=2gmwq]=;RIGHT-SIDEaudt#
LEFT-SIDEauao#;xlauao#=2dt#!np2ao#!qy;my&tudt#1$tuao#;aodu|#;dtdu|#;>#.uh]#;]#.uh>#;uh>#.]#;>#!qy_
]#!qy_;>#wyX;$&#wy*|;yryb#FROM*|;$boUP&bo^js2^&boUPjs;UPbo&^bo$js2$^bo&js;$boUP&boUPjs;UPbo&^bo&js
$bo^&bo^js;UPbo$^bo$js;]juxh;>juxh;yrjt&xh=;]jt^xh=;yrjt$xh=;]juis;>juis;yrjt&is=;]jt^is=;yrjt$is=
]ju.]jt^;yrjt$bryrjt&;>ju.>jt^;gmjt$brgmjt&;]ju.>ju=;>ju.]ju=;]ju.mvfc4^_mvfc;>ju.mvfc4^_mvfc
yrjt$brgmjt&;gmjt$bryrjt&;&+#!ROUNDEDjv;hh.>#;xe.>#;]#.xe=;>#.ag;mk.]#;]#wymk;jf.>#;vx.>#;]#wyvx
we.]#;$hzwj=;UPhzwj=;xuyufi;zxSPOT2TYPEdx;$<ev=2qd=;zx$IMAGEch=3BINDINGch=;$vl!yg=4xbINxlek
&vl!xbINceek=6xlek;$anzk=1aumkch;&aujfch;+$aujfch1&aumkch;$?xnch=;ghFENCE;ytzzmq;njampg$
&amVARIANT!vk;nj&amzk;am!Slb;aeam;viampg$3UP;xxam;suam;am!yg;suam!yg;OBLIQUEampgUP=
njam!peARM ENDING IN#reyl&=9^%&=9&%UP=9&%^=;sugzSET;gzSET!pr3*|.3&#.=;|!kjbn;dmyu1qc1stuz1qm
|fykjbn%xljkfyyu1!SUPERIMPOSED X;dmANTICLOCKWISE-ROTATEDfz);UP#wy|;dm<cp1cp1mk=;|!*|TOwp&
2yakjvvTOwp&;vmtdfpus1hqfpus1bb1*|1vk;yalpvn;xqzl2yg;S INxq;xq!tyATce;&xq.$xq;$xqbryu;yubr&xq
cf!$jl=;?cf;xf!$jl=;<km=;$zi=1+zi=;INCOMPLETEkx;TIEpqkx;kxoc!yu;DOUBLE-ENDEDnx;vk!CONTOURED OUTLINE
INCREASES AS;SHUFFLErs;hh%urqc5!xd.;ksTO%urqc;GLEICH STARK;THERMODYNAMIC;glxq!$jl=;?fr!^#1na;<|!^#=
ERROR-BARRED<vk=2fr=2|=;RULE-DELAYED;stuzph;uz!pr;stuz!kj~;BIGuz1stuz;+qy;xuqy;mgeyan=;TINY;MINY
oadmgdph2qyph2xfph1yjphzk4qy1vklgph2yjph;yamu%ph2ORph;oaxfph;MODULOyaSUM;wa!lc;sblcph;FINITE PARTlc
lc!+~1AVERAGE!us;CIRCULATIONiv;aold;mqld!RECTANGULARqf3tuqf2ooINCLUDINGwpPOLE;lcAROUND Arbph
QUATERNIONlcph;lc!]#zn2xf)2lg2yj2pr2yg;JOIN;mc$xqph;zxSCHEMAeb3PIPING3PROJECTION;qz!*|.3doab.3xd.
3ge3xd_3vwya3?xq;np)!dz.3ge3hqgg3tdgg;qzIN$jk|=;VECTOR ORenrs;ny)zl3yg;twrs!cedu;SMASHrs;ny)IN$jk|=
dmny)!doab;ny)IN+|;dmfz);qzINxq;np)INxq;ny)INxq;lers;RIGHTHANDlers;zxRELATIONALeb;AMALGAMATION ORei
lgzk;yj!np)2pr;lg!pr2mu%;yj!muOR1.lg;lg.yj;yj.bn.lg;lg.bn.yj;yjbr%lp!yj;lgbr%lp!lg;duyj!ty1lg!ty
+vklg2yj;duyj!ty%SMASHrs;mu%zl=;+mu%=;yaINTERSECTINGmu%3OR;SLOPINGmcOR2%;muORpsmu%1%!nnvr=3kjfc=
3+pr3yg3+yg;*VEE!yg;muOR!+pr4yg;zxDOMAINap2RANGEap;hh!ge;kszl;xukjbn!+yw4xuyw;xezl3tdgg;umnpum
CONGRUENTzl;hg!bb;ag!doab;athepj;hh.qz;qz.hh;hh.xe;+dxhe;yaCONSECUTIVEhgSIGNS=;hh!yagg.%yagg_
EQUIVALENT!iqgg.;mk!|lb=2sf.=1ORurhf=5zklb=7.=8&;jfORurhfzl$;mkORas=1%uoop=2ooas=1.gihe.jf
jf.gihe.mk;mk.umORhe=3.jf;jf.um.mk;mk.jf.gihe;jf.mk.gihe;mk.urhe.jf.urhe;jf.urhe.mk.urhe;urhfORmk=
5zklb=;gihfORmk=1urhfORmk=;umORmk=1.mk.hh=;+NESTEDmk=3!yg;jfpsmk1brmk;mkduBY CURVE=4.urhe=;uu;md
uupj;mdpj;hh!BUMPY.;rn.uohh=3op=2hh=2op=2ag=2ooag=;+rn=;vxzk=2qz_=2ny)_=1OFpjzl=2.hh=3xe=3ag=3op=
vk$pecgph=;duvx=2pj=;vx.we;we.vx;vx.vx=;webrvx2%lpBYfc!vx;gupggm;qu!TEExl;TRANSVERSALlg;FORKING
NONFORKING;uh$wi1^wi=;qm!S;yuxu&xy;+yu$xy;yu+$xy;+yu+$xy;mvfcFROM$nlOF+yt;uh^wi!pr1yn!yg3.uh^wi
+^wi=1~oo);su+~oo);gbfx!suNEGATIONus;yv!|.4_;^wi!|_;qc!kj~2xe;xuyuBINARYsp3!kj~1dxph1NESTEDmk=
giurmkpj=;xuuzBINARYsp;mcxuyuph;+uzph;<yu;oa<yu;om<#=;vd<#=;$&<#;]?#;yr?#=;om?#=;vd?#=;$&?#;UP^?#
>#!xggm4yr;]#!xggm4yr;vk!xljl=2yp&fpjl2my$fpjl;fr!$jl=2xljl=;ghvk;?mcvk=1VERY*vk=1qh=;<kb=;kj?kb
?mc|1nkfr=2na=1*fr2na=1kjgw=1ytgw=;$#!*|;ww]az;$#!dmqy;mv]vo#;]yb#!yw4+yw3is2xufc#1#!ghvr3wj!yw5+yw
1yb#!wj5!yw6+yw1#wyX;zc#refv$;hh.]#;stxe.]#;]#.stag;>#wyjf3we;]sb#=;stxe.>#;>#.stag;xe.]#;]#.ag
3stxe=;gmxrzz#;uhurol#1bh#;<nkvq;?*vq=1szqh=;[mc|1OVAL!OVALlb1|!|lb21dmtj;urol#!HOOKEDjv
bh#!HOOKEDwj;urol#!kjwj;bh#!kjwj;BENT#regmTHENom;uhBENT#regmTHENom;]xs;yrxs;>xs;gmxs;$&xs;UP^xs
onxs=;vdxs=;]xrfd#;yrxrfd#;>xrfd#;gmxrfd#;dtxrpe|#;aoxrpe|#;]xsxh;yrxsxh;>xsxh;gmxsxh;qly:onxsxh=
vdxsxh=;]xs!+kj~;yrxs!+kj~;>xs!+kj~;gmxs!+kj~;kjTABlv;ytTABlv;]xspq>xs;yrxs]OFgmxs;>xspq]xs
gmxs]OFyrxs;]xrpy;yrxrpy;>xrpy;gmxrpy;]?dm<#;yr?dm<#;>?dm<#;gm?dm<#;aoxr&yd#2ceyd#2$yd#2xlyd#;ss$=
NEWLINE$=;iqekazCIRCLINGao;>?#;qnf:,inTYPE A ELECTRONICS;wxxm]hiax1RIGHT-LIGHTEDyrhiax1xm>hiax
1LEFT-LIGHTEDgmhiax;?]hiax1yrhiax1>hiax1gmhiax;gmxs!mvxg]=;yrxs!mvxg]6>;]xs!mvxgyr;>xs!mvxgyr
]xs!mvxggm=;?eygm%]#=2yr%]#4>#2]%yr#2>%yr#2]%gm#=;sx#^$=2UP$3&2$UP2&UP2$^=;yr<#is!kjbn;UPaxIN Asmcg
ps<vn2%?vn1?vn;bmcg!mnX;dmX1caX;?vkde1frde;xx?qh;kj?ow;?ow1nkyoxqde2glxqde2mgxqde2szxqde;ofioya
xljl|=;mniqrc?ez;tgmniqrc?ez;<iqrcez;tg<iqrcez;vkrikw;UNCERTAINTY);GROUPnh;PLUTOioya=2iq2ib
TRANSPLUTO;PROSERPINA;ASTRAEA;HYGIEA;PHOLUS;NESSUS;<ntSELENA;?frONen;TRUEmnntARTA;CUPIDO;HADES;ZEUS
KRONOS;APOLLON;ADMETOS;VULCANUS;POSEIDON;$jlvq=;vq!$jl=;]yb#!xqay;yryb#!xqay;>yb#!xqay;gmyb#!xqay
ERISiopd2ya;SEDNA;RUSSIAN ASTROLOGICAL,VIGINTILE3NOVILE3QUINTILE3BINOVILE3SENTAGON3TREDECILE;hh!kx_
UNITED,;SEPARATED,;gk,;PASSED,;su&am;HELLSCHREIBER PAUSE,;seq:ktve1dz1iuvt;DITTOnh
loINDUSTRIAL STANDARD,;ktlnnh1CLOSINGnh1otzy;$an=1+an=1ekch=1<ekch=1?mjch=;rknh;GETAnh;$xnch=1<mjch
=2xnch=2vl=;zcfc;su+rqsg;+rqsg;mx+rqsg;rknh/;jqoupd2ya=2iq2ib2up2tz2gq2oh;ktLEVELxj1tdxj1fkxj
1ENTERINGxj;HANGULungdxj1+gdxj;WAVYfc;ytKANA REPEATnh3!yyvb3nhypjk3!yyvbypjk3nhmyjk;dmrknh
ktTELEGRAPHmqFEEDtx,;jqouwn2TWENTY2THIRTY;ytktlnnh;MASUnh;PART ALTERNATIONnh;ktVARIATIONkw1jkhuve
shd:ke(*A2A2*I2I2*U2U2*E2E2*O2O2KA2GA2KI2GI2KU2GU2KE2GE2KO2GO2SA2ZA2SI2ZI2SU2ZU2SE2ZE2SO2ZO2TA2DA
2TI2DI2*TU2TU2DU2TE2DE2TO2DO2NA2NI2NU2NE2NO2HA2BA2PA2HI2BI2PI2HU2BU2PU2HE2BE2PE2HO2BO2PO2MA2MI2MU
2ME2MO2*YA2YA2*YU2YU2*YO2YO2RA2RI2RU2RE2RO2*WA2WA2WI2WE2WO2N2VU2*KA3KE;skn:dyluyyvb2tsvb;luyyvb
1tsvb;kelnnh1yylnnh1fuYORI;lu+kp;lt(*A2A2*I2I2*U2U2*E2E2*O2O2KA2GA2KI2GI2KU2GU2KE2GE2KO2GO2SA2ZA2SI
2ZI2SU2ZU2SE2ZE2SO2ZO2TA2DA2TI2DI2*TU2TU2DU2TE2DE2TO2DO2NA2NI2NU2NE2NO2HA2BA2PA2HI2BI2PI2HU2BU2PU
2HE2BE2PE2HO2BO2PO2MA2MI2MU2ME2MO2*YA2YA2*YU2YU2*YO2YO2RA2RI2RU2RE2RO2*WA2WA2WI2WE2WO2N2VU2*KA3KE
2VA2VI2VE2VO1nngd;luPROLONGEDvb;ltlnnh1yylnnh1fuKOTO;drbk:me*mmFF3FI3FL3FFI3FFL3mvS T3ST
dsov:FULLWIDTHhn1sg1ot)1gc)1qj)1ai1ar1$qd=1bb1qz1dz1kq1iuvt1uz1ftzy2pd2ya=2iq2ib2up2tz2gq2oh1dx1tv
1mk)1hh1jf)1sf1eaAT1me@(A4B4C4D4E4F4G4H4I4J4K4L4M4N4O4P4Q4R4S4T4U4V4W4X4Y4Z1$vl1stuz1&vl1doab1mxmq
1jd1me*(A4B4C4D4E4F4G4H4I4J4K4L4M4N4O4P4Q4R4S4T4U4V4W4X4Y4Z1$ev1yv1&ev1xd;dsyn:REPLACEMENTdf
hgzg:CYCLONE;FOGGY;duyf;NIGHT!STARS;SUNRISEpqMOUNTAINS1;dpAT DUSK;SUNSETpqco;RAINBOW;cjAT NIGHT
zbzc;VOLCANO;MILKY WAY;gpGLOBE EUROPE-AFRICA2AMERICAS2ASIA-AUSTRALIA;GLOBE!MERIDIANS;NEWnt,
WAXINGemnt,;hyscnt,;WAXINGiznt,;iunt,;WANINGiznt,;LASTscnt,;WANINGemnt,;emnt;NEWnt!/;hyscnt!/
LASTscnt!/;iunt!/;wb!/;GLOWINGvq;SHOOTINGvq;wr;?go;<wb2!*dv2BEHINDdv4!sj;dv!sj2SNOW2mp2TORNADO;FOG
zjBLOWING/;HOT DOG;TACO;BURRITO;CHESTNUT;SEEDLING;EVERGREENxp;DECIDUOUSxp;PALMxp;CACTUS;HOT PEPPER
TULIP;CHERRY BLOSSOM;ROSE;HIBISCUS;SUNFLOWER;BLOSSOM;EARoxMAIZE2sy;HERB;iqmfCLOVER;MAPLEmf;FALLENmf
mfFLUTTERING INzj;MUSHROOM;TOMATO;AUBERGINE;GRAPES;MELON;WATERMELON;TANGERINE;LEMON;BANANA
PINEAPPLE;soAPPLE;jhAPPLE;PEAR;PEACH;CHERRIES;STRAWBERRY;HAMBURGER;SLICEoxPIZZA;MEAT ON BONE
POULTRYmi;syCRACKER1bj;COOKEDsy;CURRY%sy;STEAMING BOWL;SPAGHETTI;BREAD;FRENCH FRIES
ROASTED SWEET POTATO;DANGO;ODEN;SUSHI;FRIED SHRIMP;hzCAKE!SWIRL DESIGN;uykrCREAM;SHAVEDkr;krCREAM
DOUGHNUT;COOKIE;CHOCOLATEbn;CANDY;LOLLIPOP;CUSTARD;HONEY POT;SHORTCAKE;BENTOcg;POToxil;COOKING
FORK%ly;TEACUPzrHANDLE;SAKEcd%CUP;WINEja;COCKTAILja;xvDRINK;BEER MUG;drBEER MUGS;becd;FORK%ly!PLATE
cd!POPPING CORK;POPCORN;sx;WRAPPED PRESENT;BIRTHDAY CAKE;JACK-O-LANTERN;dlxp;FATHERdl;FIREWORKS
FIREWORK SPARKLER;bk;qePOPPER;CONFETTIbj;TANABATAxp;epFLAGS;PINEfg;loDOLLS;CARP STREAMER;zjCHIME
ntVIEWING CEREMONY;SCHOOL SATCHEL;GRADUATION CAP;jy!xgONwp$;BOUQUEToxFLOWERS;noMEDAL;REMINDERsx
nzlw!JACKS;STUDIOnm;LEVEL SLIDER;CONTROL KNOBS;BEAMEDbanzos1fmnzos;FILM FRAMES;ADMISSION TICKETS
CAROUSELkl;FERRISzg;ROLLER COASTER;FISHING POLE%hz;nm;MOVIEcu;CINEMA;HEADPHONE;ARTIST PALETTE;xlHAT
CIRCUS TENT;TICKET;CLAPPER BOARD;PERFORMING ARTS;VIDEO GAME;DIRECT HIT;SLOTnc;BILLIARDS;GAME DIE
BOWLING;ihPLAYING CARDS;nzor;MULTIPLEnzos;SAXOPHONE;GUITAR;nzlw;TRUMPET;VIOLIN;nzSCORE
RUNNING SHIRT!SASH;TENNISsh%bj;SKI%SKI BOOT;BASKETBALL%HOOP;CHEQUEREDic;SNOWBOARDER;RUNNER;SURFER
SPORTS MEDAL;TROPHY;klRACING;AMERICANim;RUGBYim;SWIMMER;WEIGHT LIFTER;GOLFER;RACING MOTORCYCLE1cw
CRICKET BAT%bj;VOLLEYBALL;FIELDkf%bj;krkf%PUCK;TABLE TENNIS PADDLE%bj;SNOW CAPPEDnu;CAMPING
BEACH!yf;cned;knco;dp;DERELICTkncn;CLASSICALcn;DESERT1ISLAND;obPARK;STADIUM;kncn1!GARDEN;OFFICEcn
lorj;hmrj;HOSPITAL;BANK;AUTOMATED TELLERnc;HOTEL;LOVE HOTEL;CONVENIENCE STORE;SCHOOL
DEPARTMENT STORE;FACTORY;IZAKAYA LANTERN;loda;hmda;<PENNANT=;WAVING<ic=;tf;?tf;LABEL
BADMINTONsh%SHUTTLECOCK;BOW%#;AMPHORA;EMOJInrFITZPATRICK TYPE-1-23TYPE-33TYPE-43TYPE-53TYPE-6;RAT
nv;OX;zbBUFFALO;COW;TIGER;LEOPARD;RABBIT;db;DRAGON;CROCODILE;WHALE;SNAIL;SNAKE;kl;RAM;GOAT;SHEEP;ns
ROOSTER;CHICKEN;DOG;PIG;BOAR;ELEPHANT;OCTOPUS;SPIRAL SHELL;BUG;ANT;HONEYBEE;LADY BEETLE;hz;xvhz
BLOWFISH;TURTLE;HATCHINGdk;bedk;FRONT-FACINGbedk;BIRD;PENGUIN;KOALA;POODLE;DROMEDARY CAMEL
BACTRIAN CAMEL;DOLPHIN;nv/;COW/;TIGER/;RABBIT/;db/;DRAGON/;SPOUTING WHALE;kl/;ns/;DOG/;PIG/;FROG/
HAMSTER/;WOLF/;BEAR/;PANDA/;PIG NOSE;PAW PRINTS;CHIPMUNK;hp;EYE;EAR;NOSE;nw;TONGUE;<UPrebgkv=
1$rebgkv=;FISTEDjo);WAVINGjo);OKjo);wz)=;CLAPPINGjp);pejp);CROWN;ztHAT;EYEGLASSES;NECKTIE;T-SHIRT
JEANS;DRESS;KIMONO;BIKINI;ztCLOTHES;PURSE;HANDBAG;POUCH;MANSuf;ATHLETICuf;HIGH-HEELEDuf;ztSANDAL
1BOOTS;FOOTPRINTS;BUST INul;BUSTS INul;BOY;GIRL;ng;zs;FAMILY;ng%zskgjp;yaMENkgjp1WOMENkgjp
rgOFFICER;zs!BUNNY EARS;BRIDE!VEIL;qn!BLONDjj;ng!GUA PI MAO2TURBAN;OLDERng1zs;be;edWORKER;PRINCESS
loOGRE1GOBLIN;GHOST;beANGEL;EXTRATERRESTRIAL ALIEN;ALIEN MONSTER;IMP;uq;kyDESKqn;GUARDSMAN;DANCER
LIPSTICK;NAIL POLISH;/MASSAGE;HAIRCUT;BARBER POLE;SYRINGE;PILL;KISSnh;LOVE(;tc;GEM STONE;KISS
BOUQUET;COUPLE!jy;WEDDING;BEATINGjy;cljy;yaka;SPARKLINGjy;GROWINGjy;jy!#;bzjy;jhjy;YELLOWjy
PURPLEjy;jy!sx;svka;jyfg;frSHAPE!Agdlb;gtmnBULB;ANGER,;BOMB;ut,;COLLISION,;SPLASHING SWEAT,;go;fc,
PILEoxPOO;FLEXED BICEPS;DIZZY,;vhbk;wtbk;<ih;koPOINTS,;MONEY BAG;ewEXCHANGE;[gc);CREDITcx
BANKNOTE!YEN)2gc)2EURO)2POUND);MONEY!WINGS;dg!yrTREND%YEN);SEAT;qo;BRIEFCASE;MINIDISC;FLOPPY DISK
pi;DVD;htij;pehtij;px!et1FACING UP;ct;TEAR-OFFct;cxkv;dg!yrTREND=;bndg;CLIPBOARD;ry;ROUNDry
PAPERCLIP;vuRULER;xtRULER;ccTABS;LEDGER;NOTEBOOK1!DECORATIVE COVER;ducb;pecb;jhcb;bzcb;pkcb;BOOKS
NAME BADGE;SCROLL;MEMO;wmsl;PAGER;FAXnc;tmANTENNA;PUBLIC ADDRESS LOUDSPEAKER;CHEERING MEGAPHONE
OUTBOX TRAY;INBOX TRAY;PACKAGE;E-MAIL,;INCOMINGhc;hc!gm#.;dune!mzic3skic;pene!skic3mzic;POSTBOX
rkkk;og;nq2!>#AT$;VIBRATION MODE;nqOFF;NO MOBILE PHONES;ANTENNA!BARS;cu1!FLASH;VIDEOcu;TELEVISION
RADIO;VIDEOCASSETTE;FILM PROJECTOR;PORTABLE STEREO;PRAYER BEADS;TWISTED>az;dt>%]pe|az7!dmpdpt
1gm%yrpe|az;aogm%yrpe|az;mxck,;kcck,;vg!cv~11!pdvazc2wwvazd;BATTERY;gtPLUG;mgMAGNIFYINGja=
ms!INK PEN;dums!lv;lv;ms;pems;bq1!cv~;cc;LINK,;RADIOcr;bf!]#.;END!]#.;ON!hn!$&#.;SOON!>#.;xl!yr#.
NOpdUNDER EIGHTEEN,;KEYCAPwn;INPUT,inme@ml=3NUMBERS3wf3meml;hx;gtTORCH;WRENCH;jn;NUT%BOLT;HOCHO
PISTOL;MICROSCOPE;TELESCOPE;CRYSTALbj;uprcvq!nngd;lo,inBEGINNER;TRIDENT EMBLEM;?vkcr=;mcso|1bz|
1pkfr1bzfr;*pkfr1bzfr;yosoxq;glsoxq;yo*soxq;gl*soxq;my&ub<|=;dmenPOMMEE;enPOMMEE!HALF-CIRCLE_2
oq$tt!wwgg=;,inMARKS CHAPTER;<meen;[meen;CELTICen;OM,;DOVEoxPEACE;KAABA;MOSQUE;SYNAGOGUE
MENORAH!ohBRANCHES;BOWLoxHYGIEIA;ds/pdov2yaov=2iqov2ibov2upov2tzov2gqov2ohov2wnov2gvov2xzov
2ONE-THIRTY2TWO-THIRTY2THREE-THIRTY2FOUR-THIRTY2FIVE-THIRTY2SIX-THIRTY2SEVEN-THIRTY2EIGHT-THIRTY
2NINE-THIRTY2TEN-THIRTY2ELEVEN-THIRTY2TWELVE-THIRTY;&vg2!pdvazc3wwvazd;BULLHORN1!vazd;RINGINGbq;cb
CANDLE;MANTELPIECEds;?uq%eo;NO PIRACY;HOLE;ngIN BUSINESSvzLEVITATING;SLEUTH OR SPY;DARKwc;SPIDER
1WEB;JOYSTICK;ngDANCING;$jowmsl;wmsl!px;&jowmsl;<TOUCHTONEwm=;wmONxloxMODEM;CLAMSHELLnq;bfOFhc;vphc
hc!mp;iihc;PENpqvphc;LINKED PAPERCLIPS;?ry;my$qg2BALLPOINT PEN2ipPEN2PAINTBRUSH2CRAYON;$zujo
xxOKjo);skjo!hwvj;suskjo!hwvj1wz)=1yxjo1jo!nnhvEXTENDED;skjo!PARTbsnn%tchw;<^re$jokv;uj<$rf=1?$rf=
?$rebgkv=;uj<UPrf=1?UPrf=;?UPrebgkv=1jy;fnCOMPUTER;lw%nv;wwNETWORKED COMPUTERS;rr;POCKET CALCULATOR
?jrue=;uyue;TAPE CARTRIDGE;WIREDlw;pdcrnv;yacrnv=;TRACKBALL;OLDqo;jrDISK;tp;rrICON;FAX ICON;piICON
ga!wo3%qq2qq;FRAME!qq2TILES2AN X;?ij;ij;peij;cxkvDIVIDERS1htcg;htCABINET;gzor2px2PAD;or1px1PAD;gzga
1px1PAGES;ga;px;PAGES;WASTEBASKET;SPIRALorPAD1ctPAD;fnWINDOW;MINIMIZE;MAXIMIZE;OVERLAP;dt&%$ttaz
cvX;INCREASEik,;DECREASEik,;COMPRESSION;OLDlv;ROLLED-UPog;px!dmwo;STOCKdg;fbly;LIPS;SPEAKINGjvINul
wwRAYS.2_2$=;$vhcm=;yavhBUBBLES=;$wtcm=1ANGERcm=;MOODcm;mpMOODcm2;bmcg!bm1tqX1cg!tqX1catqX1cg!catqX
mndinh;bmcg!cadi;WORLD MAP;MOUNT FUJI;TOKYO TOWER;STATUEoxLIBERTY;uloxJAPAN;MOYAI;ji/2!uvhp
/!wloxJOY;uv/zo5%uvhp6dw6xchp3HALO3HORNS;WINKING/;uv/!uvhp;/SAVOURING DELICIOUSil;sq/;uv/!jzhp3wc
SMIRKING/;NEUTRAL/;EXPRESSIONLESS/;UNAMUSED/;/!dw;PENSIVE/;CONFUSED/;CONFOUNDED/;lx/
/THROWING A KISS;lx/!uvhp3duhp;/!STUCK-OUT TONGUE4%WINKING EYE5xchp;fw/;WORRIED/;ANGRY/;rl/;es/
PERSEVERING/;/!LOOKoxTRIUMPH;fwcqsq/;it/zo;ANGUISHED/;FEARFUL/;WEARY/;SLEEPY/;TIRED/;GRIMACING/
LOUDLYes/;/zo;HUSHED/;/zo%dw1SCREAMING IN FEAR;ASTONISHED/;FLUSHED/;ut/;DIZZY/;/zrnw1!MEDICAL MASK
jidb/!uvhp;db/!wloxJOY;uvdb/zo4jzhp;db/!WRY SMILE;lxdb/!duhp;rldb/;esdb/;WEARYdb/;SLIGHTLYit/1uv/
UPSIDE-DOWN/;/!ROLLINGhp2NO GOOD GESTURE2OK GESTURE;qnBOWING DEEPLY;SEE-NO-EVILns;HEAR-NO-EVILns
SPEAK-NO-EVILns;HAPPYqnRAISINGpdjo;qnRAISING BOTHjpIN CELEBRATION1it1!rl/2FOLDEDjp;hihs:ROCKET
HELICOPTER;STEAMmt;sicw;HIGH-SPEED TRAIN2!cpNOSE;TRAIN;METRO;mnRAIL;STATION;TRAM1cw;BUS;pcBUS
TROLLEYBUS;BUSvt;MINIBUS;AMBULANCE;hxENGINE;rgcw;pcrgcw;TAXI;pcTAXI;bd;pcbd;RECREATIONAL VEHICLE
DELIVERYxw;ARTICULATED LORRY;TRACTOR;MONORAIL;nusi;SUSPENSIONsi;nuCABLEWAY;AERIAL TRAMWAY;SHIP
ROWBOAT;SPEEDBOAT;kjxomn;ytxomn;ed);rgCARSsvmn;xticON POST;DOOR;NOhb);SMOKING,;NO SMOKING,
PUT LITTER IN ITSqv,;DOooLITTER,;POTABLEzb,;NON-POTABLEzb,;BICYCLE;NO BICYCLES;bu;nubu;PEDESTRIAN
NO PEDESTRIANS;CHILDRENer;MENS,;WOMENS,;RESTROOM;be,;TOILET;zbCLOSET;SHOWER;BATH;BATHTUB
PASSPORT CONTROL;CUSTOMS;BAGGAGE CLAIM;$LUGGAGE;xq!th;PROHIBITED);dmkyvc;BOYS,;GIRLS,;COUCH%LAMP
utACCOMMODATION;ugBAGS;BELLHOPbq;BED;qvoxWORSHIP;OCTAGONAL);ugTROLLEY;STUPA;PAGODA;HINDU TEMPLE;HUT
ELEVATOR;hilh:PLAYGROUND SLIDE;zg;tcBUOY;jn%WRENCH;SHIELD;OIL DRUM;MOTORWAY;siTRACK;MOTOR BOAT
yonoaf1af1*af;*af;NORTHEAST-POINTINGaf;afDEPARTURE1ARRIVING;hima:tm;pchxENGINE;DIESELmt
PASSENGER SHIP;SCOOTER;MOTOR SCOOTER;CANOE;SLED;iiSAUCER;SKATEBOARD;AUTO RICKSHAW;PICKUPxw
ROLLER SKATE;hjgi:dmenFORMEE!iqgg4yagg3;$jk|!iqgg4wwgg4yagg3zk3;DOWNWARD FACINGki2oqki2kizk2oqkizk
PINCHEDhw;<jy;BROWNjy;PINCHINGjo;ZIPPER-MOUTH/;MONEY-MOUTH/;/!wr;NERD/;THINKING/;/!HEAD-BANDAGE
ROBOT/;HUGGING/;)OFwpHORNS;CALL MEjo;skbfOFjo;LEFT-FACING FIST;RIGHT-FACING FIST;HANDSHAKE
jo!kv%nnhwep;I LOVE YOUjo);/!COWBOY HAT;CLOWN/;NAUSEATED/;ROLLING ONwpFLOOR LAUGHING;DROOLING/
LYING/;/PALM;SNEEZING/;/!pdEYEBROWsk;ji/!vqhp3pdmc%pd*EYE;/!hvelduLIPS;SERIOUS/!wfelnw
uv/!uvhp%joelnw;/zoVOMITING;SHOCKED/!EXPLODINGjv;rpzs;BREAST-FEEDING;PALMS UP TOGETHER;SELFIE
PRINCE;ngIN TUXEDO;MOTHERdl;SHRUG;qnDOING CARTWHEEL;JUGGLING;FENCER;MODERN PENTATHLON;WRESTLERS
zbPOLO;HANDBALL;DIVING MASK;WILTEDih;DRUM!DRUMSTICKS;drGLASSES;TUMBLERja;SPOON;GOAL NET;RIFLE;hyqw
SECONDqw;THIRDqw;BOXING GLOVE;MARTIAL ARTS UNIFORM;CURLING STONE;LACROSSE STICK%bj;SOFTBALL;iiDISC
CROISSANT;AVOCADO;CUCUMBER;BACON;POTATO;CARROT;BAGUETTE BREAD;jhSALAD;SHALLOW PANoxil;STUFFEDid;EGG
jaoxMILK;PEANUTS;KIWIFRUIT;PANCAKES;DUMPLING;FORTUNE COOKIE;TAKEOUTcg;CHOPSTICKS;BOWL!SPOON
CUP!STRAW;COCONUT;BROCCOLI;PIE;PRETZEL;CUToxMEAT;SANDWICH;CANNEDil;LEAFYjh;MANGO;ntCAKE;BAGEL
uv/!uvhp%wwka;YAWNING/;uv/!TEAR;/!qekk%qeHAT2UNEVENhp%WAVYnw;OVERHEATED/;FREEZING/;NINJA;DISGUISED/
/kgbfwl1!PLEADINGhp;SARI;LAB COAT;GOGGLES;HIKING BOOT;FLATuf;CRAB;LION/;SCORPION;TURKEY;UNICORN/
EAGLE;DUCK;BAT;SHARK;OWL;FOX/;BUTTERFLY;DEER;GORILLA;LIZARD;RHINOCEROS;SHRIMP;SQUID;GIRAFFE/;ZEBRA/
HEDGEHOG;SAUROPOD;T-REX;CRICKET;KANGAROO;LLAMA;PEACOCK;HIPPOPOTAMUS;PARROT;RACCOON;LOBSTER;MOSQUITO
MICROBE;BADGER;SWAN;MAMMOTH;DODO;SLOTH;OTTER;ORANGUTAN;SKUNK;FLAMINGO;OYSTER;BEAVER;BISON;SEAL
GUIDE DOG;PROBING CANE;EMOJI COMPONENTsojj2eujj2BALD2<jj;BONE;mi;FOOT;TOOTH;SUPERHERO;SUPERVILLAIN
tiVEST;EAR!HEARING AID;MOTORIZEDzh;MANUALzh;MECHANICAL ARM1mi;CHEESE WEDGE;CUPCAKE;SALT SHAKER;btcg
GARLIC;ONION;FALAFEL;WAFFLE;BUTTER;MATE DRINK;krCUBE;cmTEA;TROLL;STANDINGqn;KNEELINGqn;DEAFqn
/!MONOCLE;ADULT;CHILD;OLDER ADULT;BEARDEDqn;qn!HEADSCARF1IN STEAMY ROOM1CLIMBING1IN LOTUSri;MAGE
FAIRY;VAMPIRE;MERPERSON;ELF;GENIE;ZOMBIE;BRAIN;pkjy;BILLED CAP;SCARF;GLOVES;COAT;SOCKS;soGIFThc
FIRECRACKER;JIGSAW PUZZLEqr;TEST TUBE;PETRI DISH;DNA+HELIX;COMPASS;ABACUS;hxEXTINGUISHER;TOOLBOX
BRICK;MAGNET;LUGGAGE;LOTIONcd;SPOOLoxTHREAD;bjoxYARN;tiPIN;TEDDY BEAR;BROOM;BASKET;ROLLoxqa
bnoxSOAP;SPONGE;RECEIPT;NAZAR AMULET;hjum:BALLET SHOES;ONE-PIECE SWIMSUIT;BRIEFS;ui;THONG SANDAL
hjuu:DROPoxBLOOD;ADHESIVE BANDAGE;STETHOSCOPE;X-RAY;CRUTCH;hjvc:YO-YO;KITE;PARACHUTE;BOOMERANG
MAGIC WAND;PINATA;NESTING DOLLS;hjvs:RINGED PLANET;CHAIR;RAZOR;AXE;DIYA LAMP;BANJO;noHELMET
ACCORDION;mvDRUM;COIN;CARPENTRY SAW;SCREWDRIVER;LADDER;ki;MIRROR;WINDOW;PLUNGER;SEWING NEEDLE;KNOT
BUCKET;nvTRAP;TOOTHBRUSH;jx;PLACARD;ROCK;MIRRORbj;IDENTIFICATIONcx;mxBATTERY;HAMSA;hjwy:FLY;WORM
BEETLE;COCKROACH;POTTED PLANT;WOOD;FEATHER;LOTUS;CORAL;gzNEST;NEST!EGGS;hjxo:ANATOMICALjy;LUNGS
PEOPLE HUGGING;rpng1qn;qn!CROWN;hjye:BLUEBERRIES;bqPEPPER;OLIVE;id;TAMALE;FONDUE;TEAPOT
POURING LIQUID;BEANS;JAR;hjyu:MELTING/;SALUTING/;/!pehp%jopqnw2PEEKING EYE2fpnw;ghmq/;BITING LIP
BUBBLES;hjzk:jo!kvhv%THUMBep;>jo;]jo;PALM^jo=;kvreATwpVIEWER;jyjp;a:NULL;STARToxHEADING2wo;hawo
2TRANSMISSION;ENQUIRY;ACKNOWLEDGE;ALERT;BACKSPACE;dfwh;j:kjwh;j:TAB;mqFEED;k:NEWmq;k:hamq;k:EOL
k:LF;mqwh;l:ytwh;ioFEED;m:FF;CARRIAGEss;n:CR;bb:ESCAPE;bb:ESC;ex:DELETE;ex:DEL;fd:NEXTmq;fd:NEL
ge:NBSP;gr:SHY;mdn:ZWSP;ZWNJ;ZWJ;LRM;RLM;mgu:WJ;dsot:ZWNBSP;dsot:BOM;dsot:BYTE ORDERnh
dsot:zyWIDTHoive;a:NUL;h:BEL;BS;HT;l:VT;ba:SUB;ba:SUBSTITUTE;v:NAK;SYN;q:DLE"

end CodeReview.Text
