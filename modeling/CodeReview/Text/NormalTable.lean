import CodeReview.Text.Ranges

/-!
Data of compatibility normalisation, for the characters that identifiers may hold.
-/

namespace CodeReview.Text

/-- Entries `code point = parts + number`, in digits to the base of 62; the parts are complete. One
with a number and `-` leaves out so many code points, and others belong to the next code point. More
than three digits in a row are parts of two digits each. No parts are those of the last entry, and
`/` is for these with a small letter for the capital. As many more code points as the number says
have the same parts, but for the last one, which goes up with them. After `*` there is a code point
of one part for every three digits. -/
def decompositionRows : String :=
  "2k=1Z;A-FQ;4-1n;5-13CO+3;13CW;13CY;1-15D1;17CO+2;17CW;1BCO+2;1BCW;1-1GCR;1HCO+3;1HCW;2-1NCO+2
1NCW;1RCP;2-1ZCO+3;1ZCW;1ZCY;1-1bD1;1dCO+2;1dCW;1hCO+2;1hCW;1-1mCR;1nCO+3;1nCW;2-1tCO+2;1tCW
1xCP;1-1xCW;13CS;/;13CU;/;13D2;/;15CP;/;15CQ;/;15CV;/;15Ca;/;16Ca;/;2-17CS;/;17CU;/;17CV;/;17D2
/;17Ca;/;19CQ;/;19CU;/;19CV;/;19D1;/;1ACQ;/;2-1BCR;/;1BCS;/;1BCU;/;1BD2;/;1BCV;1-1B1C;1h1i;1CCQ
/;1DD1;/;1-1ECP;/;1ED1;/;1ECa;/;1E2x;/;2-1GCP;/;1GD1;/;1GCa;/;BI1m;2-1HCS;/;1HCU;/;1HCZ;/
2-1KCP;/;1KD1;/;1KCa;/;1LCP;/;1LCQ;/;1LD1;/;1LCa;/;1MD1;/;1MCa;/;2-1NCR;/;1NCS;/;1NCU;/;1NCY;/
1NCZ;/;1ND2;/;1PCQ;/;1RCQ;/;1RCW;1SCP;/;1SCV;/;1SCa;/;1r;W-1HCp;/;D-1NCp;/;J-161SCa;161yCa;/
1E1C;1E1i;/;1G1C;1G1i;/;13Ca;/;1BCa;/;1HCa;/;1NCa;/;1NCWCS;/;1NCWCP;/;1NCWCa;/;1NCWCO;/
1-13CWCS;/;13CVCS;/;3CCS;/;2-19Ca;/;1DCa;/;1HD2;/;1HD2CS;/;75Ca;AcCa;1iCa;161S;161y;/;19CP;/
2-1GCO;/;13CYCP;/;3CCP;/;3UCP;/;13Cd;/;13Cf;/;17Cd;/;17Cf;/;1BCd;/;1BCf;/;1HCd;/;1HCf;/;1KCd;/
1KCf;/;1NCd;/;1NCf;/;1LD0;/;1MD0;/;2-1ACa;/;6-13CV;/;17D1;/;1HCWCS;/;1HCRCS;/;1HCV;/;1HCVCS;/
1RCS;/;B6=1g;9u;1i;1q;AD;AF;AL;1v;1x;d-9r;1k;1r;1w;Af;DQ=CO+1;1-Ch;CWCP;l-BF;H-EjCP;2x;EnCP
EpCP;ErCP;1-ExCP;1-F3CP;F7CP;FNCWCP;P-ErCW;F3CW;FFCP;FJCP;FLCP;FNCP;FZCWCP;P-FNCW;FZCW;FTCP
FZCP;FdCP;1-FG;FM;F3;F3CP;F3CW;Fa;FU;P-FO;FV+1;1-Eq;FJ;3-F1;6-GrCO;GrCW;1-GpCP;3-GcCW;4-GwCP
GuCO;H5CU;A-GuCU;V-/;M-HNCO;HNCW;1-HLCP;3-HuCW;4-HSCP;HQCO;HbCU;N-IOCd;IPCd;Jd=GsCU;/;D-GmCU;/
GmCW;/;2-GrCU;/;2-K0CW;K1CW;GsCW;/;GtCW;/;2-GuCS;/;GuCW;/;H0CW;/;2-KGCW;KHCW;HFCW;/;H5CS;/;H5CW
/;H5CZ;/;H9CW;/;2-HDCW;/;Mp=MHMk;PK=PPQ7+1;PwQ8;PPQ9;PyQ8;Qf=PPQe;PwQe;RzQe;PyQe;Rs=SDQ8;1-RtQ8
G-SAQ8;bp=boc8;7-bwc8;2-bzc8;Z-bVc8;bWc8;bXc8;bcc8;bhc8;bic8;brc8;bvc8;eR=eNeE;eNed;F-dleC;dmeC
1-dzeC;g7=g6gG;2-gCgG;Y-fegG;ffgG;fkgG;2-fzgG;ka=kZko;2-kZkQ;kZkp;F-jxkO;jykO;s-lmmt;r-mcmU
mdmU;mcmt;oi=ogow;qe=qdqz;6-qkqz+1;1-qkqg;qkqgqz;ss=sosg;spsg;sot5;vC=vBuw;1-vBv1;vBv1uw;vBvH
wd=x3wc;yh=z7yg;e-yZyH;yZyP;111=110 12t;9-11A 12t;4-11F 12t;4-11K 12t;4-11P 12t;C-10y 12r
9-11l 11m;1-11l 11o;12o 120;12o 11l 120;12p 120;12p 11l 120;7-11l 120;H-12I 12t;9-12S 12t
4-12X 12t;4-12c 12t;4-12h 12t;C-12G 12r;14g=14f 14o;188=17c;1na=1nZ 1oL;1-1nb 1oL;1-1nd 1oL
1-1nf 1oL;1-1nh 1oL;3-1nl 1oL;e-1oQ 1oL;1-1oS 1oL;2-1oU 1oL;1oV 1oL;1-1oY 1oL;1wS=13;3C;14
1-16+1;6Q;19+7;1-1H;8o;1I;1K;1M+1;1P;1Z;9Y+1;1vm;1a;1c+1;9h;9j+1;1f;1-1j;1l;5L;1n;9c;1w6+1;1o
1s+1;1wD;A3;1u;1wL;FG+2;Fa+1;1h;1q;1t+1;FG+1;FV;Fa+1;D-HV;Y-9a;1b;9d;3s;9k;1e;9n;9p;9t;9w+2;1xj
An;A1;1xt;Ap;A5;A4;A6+3;AC;AM+1;6t;AT+1;1wC;AV+1;1y;Aa+2;FM;1zs=13Cz;/;14CV;/;14Cx;/;14DB;/
15D1CP;/;16CV;/;16Cx;/;16DB;/;16D1;/;16D7;/;17CSCO;/;17CSCP;/;17D7;/;17DA;/;17D1CU;/;18CV;/
19CS;/;1ACV;/;1ACx;/;1ACW;/;1AD1;/;1AD8;/;1BDA;/;1BCWCP;/;1DCP;/;1DCx;/;1DDB;/;1ECx;/;1ECxCS;/
1EDB;/;1ED7;/;1FCP;/;1FCV;/;1FCx;/;1GCV;/;1GCx;/;1GDB;/;1GD7;/;1HCRCP;/;1HCRCW;/;1HCSCO;/
1HCSCP;/;1ICP;/;1ICV;/;1KCV;/;1KCx;/;1KCxCS;/;1KDB;/;1LCV;/;1LCx;/;1LCPCV;/;1LCaCV;/;1LCxCV;/
1MCV;/;1MCx;/;1MDB;/;1MD7;/;1NCy;/;1NDA;/;1ND7;/;1NCRCP;/;1NCSCW;/;1OCR;/;1OCx;/;1PCO;/;1PCP;/
1PCW;/;1PCV;/;1PCx;/;1QCV;/;1QCW;/;1RCV;/;1SCQ;/;1SCx;/;1SDB;/;1gDB;1sCW;1vCY;1xCY;1ZBK;1rCV
4-13Cx;/;13CX;/;13CQCP;/;13CQCO;/;13CQCX;/;13CQCR;/;13CxCQ;/;13CUCP;/;13CUCO;/;13CUCX;/;13CUCR
/;13CxCU;/;17Cx;/;17CX;/;17CR;/;17CQCP;/;17CQCO;/;17CQCX;/;17CQCR;/;17CxCQ;/;1BCX;/;1BCx;/;1HCx
/;1HCX;/;1HCQCP;/;1HCQCO;/;1HCQCX;/;1HCQCR;/;1HCxCQ;/;1HCpCP;/;1HCpCO;/;1HCpCX;/;1HCpCR;/
1HCpCx;/;1NCx;/;1NCX;/;1NCpCP;/;1NCpCO;/;1NCpCX;/;1NCpCR;/;1NCpCx;/;1RCO;/;1RCx;/;1RCX;/;1RCR;/
6-FFCh+1;FFChCO;FFCiCO;FFChCP;FFCiCP;FFChDS;FFCiDS;EjCh+1;EjChCO;EjCiCO;EjChCP;EjCiCP;EjChDS
EjCiDS;FJCh+1;FJChCO;FJCiCO;FJChCP;FJCiCP;2-EnCh+1;EnChCO;EnCiCO;EnChCP;EnCiCP;2-FLCh+1;FLChCO
FLCiCO;FLChCP;FLCiCP;FLChDS;FLCiDS;EpCh+1;EpChCO;EpCiCO;EpChCP;EpCiCP;EpChDS;EpCiDS;FNCh+1
FNChCO;FNCiCO;FNChCP;FNCiCP;FNChDS;FNCiDS;ErCh+1;ErChCO;ErCiCO;ErChCP;ErCiCP;ErChDS;ErCiDS
FTCh+1;FTChCO;FTCiCO;FTChCP;FTCiCP;2-ExCh+1;ExChCO;ExCiCO;ExChCP;ExCiCP;2-FZCh+1;FZChCO;FZCiCO
FZChCP;FZCiCP;FZChDS;FZCiDS;1-F3Ci;1-F3CiCO;1-F3CiCP;1-F3CiDS;FdCh+1;FdChCO;FdCiCO;FdChCP
FdCiCP;FdChDS;FdCiDS;F7Ch+1;F7ChCO;F7CiCO;F7ChCP;F7CiCP;F7ChDS;F7CiDS;FFCO+1;FJCO+1;FLCO+1
FNCO+1;FTCO+1;FZCO+1;FdCO+1;2-FFChDV;FFCiDV;FFChCODV;FFCiCODV;FFChCPDV;FFCiCPDV;FFChDSDV
FFCiDSDV;EjChDV;EjCiDV;EjChCODV;EjCiCODV;EjChCPDV;EjCiCPDV;EjChDSDV;EjCiDSDV;FLChDV;FLCiDV
FLChCODV;FLCiCODV;FLChCPDV;FLCiCPDV;FLChDSDV;FLCiDSDV;EpChDV;EpCiDV;EpChCODV;EpCiCODV;EpChCPDV
EpCiCPDV;EpChDSDV;EpCiDSDV;FdChDV;FdCiDV;FdChCODV;FdCiCODV;FdChCPDV;FdCiCPDV;FdChDSDV;FdCiDSDV
F7ChDV;F7CiDV;F7ChCODV;F7CiCODV;F7ChCPDV;F7CiCPDV;F7ChDSDV;F7CiDSDV;FFCU;FFCS;FFCODV;FFDV
FFCPDV;1-FFDS;FFDSDV;EjCU;EjCS;EjCO+1;EjDV;1-FN;3-FLCODV;FLDV;FLCPDV;1-FLDS;FLDSDV;EnCO+1
EpCO+1;EpDV;3-FNCU;FNCS;FNCWCO+1;2-FNDS;FNCWDS;ErCU;ErCS;ErCO+1;4-FZCU;FZCS;FZCWCO+1;FVCh+1
FZDS;FZCWDS;F3CU;F3CS;F3CO+1;EzCi;5-FdCODV;FdDV;FdCPDV;1-FdDS;FdDSDV;ExCO+1;F7CO+1;F7DV;29x=1h
D-1m;G-1Z;1d;1n;1w;9h;1g;1j+3;1o;1r+1;2CI=15;4-6S;2-1f;1A;;;/;4l;1B;;1E;/;1-1G;3-1I+2;1K;;6-1S
1-F7;1-1S;1-1D;13CY;14+1;1-1d;17+1;1-1F;1n;O0+3;1h;2-FU;FH;El;Ey;5-16;/+1;1h+1;M-1B;1B1B;1B1B1B
1B1O;1O;1O1B;1O1B1B;1O1B1B1B;1B1Q;1Q;1Q1B;1Q1B1B;1E;15+1;1F;1h;1h1h;1h1h1h;1h1u;1u;1u1h;1u1h1h
1u1h1h1h;1h1w;1w;1w1h;1w1h1h;1k;1b+1;1l;2xg=1i;1O;31b=31N;3D6=5Xl;5Xo+1;H-3DP 3Ef;1-3DR 3Ef
1-3DT 3Ef;1-3DV 3Ef;1-3DX 3Ef;1-3DZ 3Ef;1-3Db 3Ef;1-3Dd 3Ef;1-3Df 3Ef;1-3Dh 3Ef;1-3Dj 3Ef
1-3Dl 3Ef;2-3Do 3Ef;1-3Dq 3Ef;1-3Ds 3Ef;6-3Dz 3Ef+1;1-3E2 3Ef+1;1-3E5 3Ef+1;1-3E8 3Ef+1
1-3EB 3Ef+1;M-3DK 3Ef;9-3Ej 3Ef;3EO 3EQ;C-3Ex 3Ef;1-3Ez 3Ef;1-3F1 3Ef;1-3F3 3Ef;1-3F5 3Ef
1-3F7 3Ef;1-3F9 3Ef;1-3FB 3Ef;1-3FD 3Ef;1-3FF 3Ef;1-3FH 3Ef;1-3FJ 3Ef;2-3FM 3Ef;1-3FO 3Ef
1-3FQ 3Ef;6-3FX 3Ef+1;1-3Fa 3Ef+1;1-3Fd 3Ef+1;1-3Fg 3Ef+1;1-3Fj 3Ef+1;M-3Es 3Ef;2-3G3 3Ef
3G4 3Ef;3G5 3Ef;3G6 3Ef;3-3GH 3Ef;3F5 3FQ;n-18C+1;1Aw;18E;1Ay+1;18F+2;1B2+5;18c;18I+2;18j;18L+9
19l+K;19k;18W+1;1BP+1;*1BU1BW1Bb1Bf1Bh18e1Bl1Bn;18f+1;18i;18k+1;18p;18r;18t+4;*19019419E19L19Q
1C5+1;19b+2;1AK+1;1AO;1AX+1;*1Aa1Ak1An;B5w=Hi;Hk;B9M=B9L;BBS=15;18;1J;3-4k;5T;BPY=B8B;BOx;9z
BPO;9-AX;Ga8=9LE;*6r69Va9NI7NZ5Cs5aPAd2;;*5wn9i55h95we6WU7sv8UX8wJ92Q97Y9ct73i7GV7Vx7iQ8o19gQ
*AFd5EA5Yb77s7b98w1AWs6DI7S78uT99I6Zt8e89436JO6rf7Hm7em9du5IM5RP5WA6i47757ay7ux8WX8vO8wm9S3A4I
*ALnAWI81k85f8Mi8m99n2AYR9FG5ux6KK8HY8YY7cI82k9NCA3L5uq69S73z7Ja7OZ8Kt8P9A0Z5Vy8Yl5S05Rk88C8NC
*8mnA1F9I06Zz73i9Fu5Cz67T6Og7h17ou5X583X5JH6Mz5CH7FE6ky8Kg5Zr5ss7vN8oD9EY7Ao9ZI7E86ak8iT6dM7oj
*5Es5Q95Rh6xV8Jj8gZ9FC9i35WX5bu5xL6Jw6mD7SQ84I9y1AHaAYpAZi5V56qM79j9Y26I06Uq6We6hO7Ot7Xl7lB86s
*8O48YJ9X48qs9b99oA5Sx5VD5dt7Vg96g9EY6JN6OD6cl7Ac8H07gj5Fk5n767T6F06Oq7hi7kf8Us8Xe9jgA3KA4eA80
*5IR86Q9hcA2K6S15EE5Nq67a68t6lV73i7Zu7sI8r69caAcn6pMA065Un6tH6vD7H77Mi7j77oX81D8KOA985QD6XOA1I
*5L16CP7Jq9X86MV6Tc6vn7h1A1W5TF5b569V6nT6sY6y87Fd7j47qk8UL96t97B9i0A305Xj7NC5bJ7Zw7lQ8vCA1zAPX
*AYx6tj7JL8eO8B18CO8IM7do7Uv9HM5FA8jm5TW5Sh6Io6a38JS65t7GY6q49XP94mA0b99v6JX5PU5i4;2-5so;1-6p2
2-5S2;*7fW7uU84a85885F85vA4s8J48VR;1-8va;1-9Fo;2-9bU;9ef;3-ABT;*ABgACOAVA9eAA2J5J05O35Ph5Vp5WG
*5Y15hV5jC5km5sO5u469U69e6Qm6UC6Uo6WQ6kJ6mg6pV6xZ7Hz7Kc7Os7YM7bP7jW81p84c84n84m84u850857;85t+1
*88m89p8Ey8O48OP8PJ8UE8Wb8eT8gj;;*8oR97w9A69Fx9Gr9NT9OK9ZO9bUA31A7bA8Z6QHcYQ8fA;2-5Cg
*5RN5Q85IG5PZ5QW5Vn5Wc5hV5gL5hR5ic5so5uF5wa5wq61C64O6JW6Jd6Lx6N36Rs6Tm6Se6Uo6U46WQ6XU6dw6fM6gE
*6kQ6p26rf6rj6sg79l7Ao7H77Nj7NT7Os7Sw7YM7y37bZ7dX7fW7kn7nC7o37rh7rj7uU7ul7vA7wY7wO82m8Ab8Ey8Hz
*8Lb8O48TO8Wb8kE8ml91N98j99q9A69Et9Fo9F59Fx9Fu9Fd9Gr9IA9OK9XM9cQ9hB9kkA1MA31A4sA71A7bA7nA8ZAKI
*Ad2amQamKbY53y94Ge4HBdZpeHIgXjAbbAco;c-1e1e;1e1h;1e1k;1e1e1h;1e1e1k;1r1s;;C-MWMY;MWMH;MWMN
MgMY;MWMP;5-O9NY;1-OYNb;OI;O0;O3+1;OB+2;OO;OQ;1-OPNl+1;OPNgNl+1;O0Nb+1;O0Ng;O1Ng;O2Ng;O3Ng;O4Ng
O5Ng;O6Ng;1-O8Ng;O9Ng;OANg;OBNg;OCNg;1-OENg;1-OGNg;OHNg;1-OJNg;OKNg;1-OMNg;ONNg;OONg;OPNg;OQNg
O5Nd;O1Nj;OBNj;OKNj;O0OC;Qb;;Ql;;;;Qo;;;;Qq;;;;Qk;;;;Qp;;;;Qj;;;;RQ;;;;RS;;;;Qu;;;;Qt;;;;Qw;;
+1;Qx;;;R3;;R2;;R4;;Qy;;RE;;R7;;RV;;;;Rb;;;;Rf;;;;Rd;;;;Rm;+1;Rn;;;SDQ8;;Rt;;;;Rq;;;;SA;;SAQ8;
X-RZ;;;;Rz;;Ry;;S0;;RzQe;S3;;Rx;;S1;;S8;;;;Px;;PyQ8PP;;PyQ8SD;;PyQ8Pw;;PyQ8Rz;;PyQ8Ry;;PyQ8S0;
PyQ8S8;;;PyQ8Px;;;S4;;;;PyQ8PU+1;PyQ8Pt;PyQ8Px+1;PQPU+2;PQPt;PQPx+1;PSPU+2;PSPt;PSPx+1;PTPU
PTPt;PTPx+1;PUPV;PUPt;PVPU;PVPt;PWPU+1;PWPt;PbPU+2;PbPt;PdPV;PdPt;PePU+2;PePt;PfPV;PfPt;PgPt
PhPU;PhPt;PiPU;PiPt;PpPU+2;PpPt;PpPx+1;PqPV;PqPt;PqPx+1;PrPP;PrPU+2;PrPs+1;PrPx+1;PsPU+2;PsPt
PsPx+1;PtPU+2;PtPt;PtPx+1;PuPU+2;PuPt;PuPx+1;PvPU;PvPt;PvPx+1;PyPU+2;PyPt;PyPx+1;PYQa;PZQa;PxQa
6-PyQ8PZ+1;PyQ8Pt+1;PyQ8Px+1;PQPZ+1;PQPt+1;PQPx+1;PSPZ+1;PSPt+1;PSPx+1;PTPZ+1;PTPt+1;PTPx+1
PpPx+1;PqPx+1;PrPP;PrPs+1;PrPx+1;PsPt;PsPx+1;PtPP;PtPt;PuPZ+1;PuPt+1;PuPx+1;PxQa;PyPZ+1;PyPt+1
PyPx+1;PyQ8PU+2;PyQ8Pt;PyQ8Pv;PQPU+2;PQPt;PQPv;PSPU+2;PSPt;PSPv;PTPt;PUPV;PUPt;PVPU;PVPt;PWPU
PWPt;PbPU+2;PbPt;PdPV+1;PdPt;PePU+2;PePt;PfPV;PgPt;PhPU;PhPt;PiPU;PiPt;PpPU+2;PpPt;PqPV;PqPt
PrPU+2;PrPs+1;PsPU+2;PsPt;PsPv;PtPU+2;PtPt;PuPU+2;PuPt;PuPv;PvPU;PvPt;PvQa;PyPU+2;PyPt;PyPv
PyQ8Pt;PyQ8Pv;PQPt;PQPv;PSPt;PSPv;PTPt;PTPv;PbPt;PbPv;PcPt;PcPv;PrPs+1;PsPt;PuPt;PuPv;PyPt;PyPv
PoQ2Q5;PoQ3Q5;PoQ4Q5;PfPx+1;PhPx+1;PiPx+1;PbPx+1;PcPx+1;PVPx+1;PUPx+1;PWPx+1;PdPx+1;PePx+1
PcPU+2;PcPt;PcPZ;PbPZ;PdPZ;PePZ;PfPx+1;PhPx+1;PiPx+1;PbPx+1;PcPx+1;PVPx+1;PUPx+1;PWPx+1;PdPx+1
PePx+1;PcPU+2;PcPt;PcPZ;PbPZ;PdPZ;PePZ;PcPU+2;PcPt;PbPv;PcPv;PfPt;PbPU+2;PcPU+2;PfPt;PgPt;PPPz;
I-PSPUPt;PSPVPU;;PSPVPt;PSPWPt;PSPtPU+2;PUPtPV;;PVPtPy;PVPtPx;PbPVPU;PbPUPV;PbPUPx;PbPtPV;
PbPtPU;PbPtPt;;PdPVPV;;PdPtPt;PcPVPt;;PcPUPy;PcPtPW;;PcPtPt;;PePVPx;PePWPt;;PfPtPV;;PfPtPt
PfPtPy;PhPUPt;PhPtPt;;PhPtPx;PiPtPt;PiPtPy;PiPtPx;PpPWPt;;PqPtPV;PqPtPt;PsPVPt;PsPVPy;PsPVPx
PsPUPU;;PsPWPt;;PsPtPV;;PtPVPU;PtPVPt;PtPVPy;PtPUPV;PtPUPt;PtPWPU;PtPWPt;2-PtPUPW;PvPtPU;PvPtPt
PuPVPt;PuPVPx;PuPUPt;;PuPUPx;PuPtPy;PuPtPx;PyPtPt;;PQPWPy;PSPUPy;PSPUPx;PSPWPy;PSPWPx;PSPtPy
PSPtPx;PUPtPy;PUPVPx;PUPtPx;PbPWPx;PdPVPy;PcPVPy;PePVPy;PsPUPy;PsPtPy;PyPVPy;PyPUPy;PyPtPy
PtPtPy;PqPtPy;PuPVPy;PqPtPV;PsPVPt;PhPtPy;PrPtPy;PuPUPV;PtPWPy;PsPUPt;PrPtPt;PsPUPt;PuPUPV
PUPVPy;PVPUPy;PtPUPy;PpPtPy;PQPVPy;PrPtPt;PhPUPt;PdPtPt;PbPWPy;PuPUPy;e-PdPsSA;PqPsSA;PPPsPsPv
PPPrPQPZ;PtPVPtPX;PdPsPhPt;PZPbPwPs;PhPsPyPv;PwPbPsPt;PdPsPx;v-1X;;O-1X;;;X-PoPz;5-PoQ2;1-PoQ3
1-PoQ4;1-PoQ5;1-PoQ6;PJ;PPQ7;+1;PPQ8;PwQ8;;PPQ9;;PyQ8;;;;PP;+1;PQ;;+1;PR+1;PS;;+1;PT;;+1;PU;;+1
PV;;+1;PW;;+1;PX+1;PY+1;PZ+1;Pa+1;Pb;;+1;Pc;;+1;Pd;;+1;Pe;;+1;Pf;;+1;Pg;;+1;Ph;;+1;Pi;;;Pp;;;+1
Pq;;+1;Pr;;+1;Ps;;+1;Pt;;+1;Pu;;+1;Pv;;+1;Pw+1;Px+1;Py;;;PsPPQ7;+1;PsPPQ8+1;PsPPQ9;PsPP;;J-m+9
7-13+P;4-1X;1-1Z+P;B-3G6;*3En3Ep3Er3Et3Ev3Fr3Ft3Fv3FL3GG3Eo3Eq3Es3Eu;3Ew+1;*3Ez3F13F33F53F73F9
*3FB3FD3FF3FH3FJ3FM3FO3FQ;3FS+5;*3Fa3Fd3Fg3Fj;3Fm+4;3Fs;3Fu;3Fw+5;3G3;3G7;3Ef+1;19k;18C+1;1Aw
18E;1Ay+1;18F+2;1B2+5;18c;18I+2;18j;18L+9;3-19l+5;2-19r+5;2-19x+5;2-1A3+2;HY1=Bc+1;3i;Aj;9b
1-At;BPi;Av;Au;9e+1;1y5;9g;9m;Az;9s;9q;9o;Al;4l;Am;9v;AO;B0+1;A0;Vts;B9q;A2;Vtt;AY;Vtu;40;AA+1
1p;AE;Vtw;AH+1;AK;Ay;Aw;BPj;Ax;AS;2xV;1-AZ;Ar+1;Ai;7E+2;Vty;VuI;I9a=I9Z IA6;1-I9b IA6;E-I9l IA6
IBy=IC1 IBr;IC2 IBr;IKh=IKd IKU;IKd IKt;IQd=IQb IQc;IQb IQS;1-IQb IQf;IUk=IUi IUZ;IUj IUZ
IjA=Ij7 Ij2;VAO=13+P;/+P;13+P;/+6;1-1h+H;13+P;/+P;13;1-15+1;2-19;2-1C+1;2-1G+3;1-1L+7;1Z+3;1-1e
1-1g+6;1-1o+A;13+P;/+P;13+1;1-16+3;2-1C+7;1-1L+6;1-1Z+P;13+1;1-16+3;1-1B+4;1-1H;3-1L+6;1-1Z+P
13+P;/+P;13+P;/+P;13+P;/+P;13+P;/+P;13+P;/+P;13+P;/+P;4v;99;2-Ej+G;Eq;F1+6;1-FF+O;1-FJ;FM;FO;Fa
FV;FU;Ej+G;Eq;F1+6;1-FF+O;1-FJ;FM;FO;Fa;FV;FU;Ej+G;Eq;F1+6;1-FF+O;1-FJ;FM;FO;Fa;FV;FU;Ej+G;Eq
F1+6;1-FF+O;1-FJ;FM;FO;Fa;FV;FU;Ej+G;Eq;F1+6;1-FF+O;1-FJ;FM;FO;Fa;FV;FU;Fw+1;2-m+9;+9;+9;+9;+9
Wtk=PP+1;PU;PX;1-Pw;Pa;PV;Pf;Py;Pr+3;Pb;Ph;Pp;Pd;Pq;PZ;Pc;PS+1;PW;PY;Pe;Pg;Pi;QY;Rm;RN;QZ;1-PQ
PU;1-Pv;2-PV;1-Py;Pr+3;Pb;Ph;Pp;Pd;Pq;1-Pc;PS+1;PW;1-Pe;1-Pi;6-PU;4-PV;1-Py;1-Ps;1-Pu;Pb;Ph
1-Pd;Pq;1-Pc;2-PW;1-Pe;1-Pi;1-Rm;1-QZ;1-PQ;PU;1-Pv;2-PV;Pf;Py;Pr;1-Pt+1;Pb;Ph;Pp;Pd;Pq;1-Pc
PS+1;PW;1-Pe;Pg;Pi;QY;1-RN;1-PP+1;PU;PX;Pv+1;Pa;PV;Pf;Py;1-Ps+2;Pb;Ph;Pp;Pd;Pq;PZ;Pc;PS+1;PW;PY
Pe;Pg;Pi;5-PQ;PU;PX;1-Pw;Pa;PV;Pf;Py;1-Ps+2;Pb;Ph;Pp;Pd;Pq;PZ;Pc;PS+1;PW;PY;Pe;Pg;Pi;XpI=m+9
oc4=5D3;*5Cy5D7YAk5Hk5J05JD5KM5MI5Mn5O35Nf3VGYVm5Ph5Po5Q45QNYRA3Vh5Q75QjYRv5Qt5R65FM5RE5RNhoN
*5SP5Sd3WJ5TX5Ti5UQ5UV3XB5Vn5Vp5WG5Wc;5Wn+1;*5X55Xt5Y15YA5YZ5Yj5Yl;;;*Ym47UG5Zy5aJYr55aV5ab5aw
*5dO5bk5c0;/;*5dS5eo5fE5gJ5gZ5h6;;*5hR5hj5hr5i65na5jC5nb5kP5ky5Sh5vC5qY5rA5rZ5pT5sA5s95u8ZUK5vG
*5vL5va5vu5w25x4ZbcZcg5zI60360F5yy61G3eo3f263s64k;;*ZoW66t67E67T67fZtw67r67y6Lb68Q3hB69Q69e6Ay
*6A9a5U6D5a5W6Dm6Dj6E0;6Fd+1;*3jz6G56Gm6H76Hp3koaKR3lE6Iy6J16J46JOizS6KEaRN;;8en;6Ko;
*3mRbTUec66Lq6Lz3mt6Mk6NZ6Nj6OH6QT3oI3no6QmagO6Rb6Tg6Tk6Tm6Tk6UU6Uo6VO6VA6VL6W66WQ6WU6Wu6X56Y9
*6ZV6a46c4axo6bl6ai6cS6ct6eSb1V6fS6dx6dV3sE6gb6gw6hR6gp3tE6kJ6kmbIQ6mh6rA6oL3w16pV3vk3vA5Qo5Qr
*6rI6pg8ZJ4W96rf6rj6rp6so6sdbXn3wn6vK6tR6wk6xZbaX6xi6vv6zs3y970c72B73K76Objf77D40878Lbrz79A410
*79e7AN;7Ao+1;*bzpa1zc1a7DCc8q7F17FF7Db7GQ7H47Hz7H77Hl7I07IDcAQ7Gu7Kx7Ly44h7NT7NPcHR7K57Q6cJi
*cKU7RW7TN7Sw7St46I7Te7UT7UN7VFYRJ7XhcWB7Z6cbT7bM7bZ7c0clE7cm7d7cq5ctg7go7h54Am7hV4Ay;
*7k77kS7kn7l77mE4CZ7ngdAk7o6dCE7ouaKt7rUdOrdPEdRU4GC4GO7vAdUJdUIdUvdVL;7vq+1;*7vr7wY4HB7xb4HO
*4IgdhN80k81k82m4Jvdpm850dredsL85v87P4L988m88w891e3Ye8N;;*8Ba4OYeCZ8F48F74P9eG08JO4R68Jk8Jf8K8
*eSU8Lj4Sf8NL8OI8PN4TUedMedr4U5egD8UMehq8Un8WQ8WbeoUepf8Y4ero8YKbWB4W58ZO8ah4Wx8be62Xf03f0HbX1
*bXA8en8eq9Z04YV8h78h18hJ5VT8hd8hf8hp8iUfEq8iT8jN8kV8lh8jT8lx8md8oR8kF8mA8mC8mSfIsfNrfLR4bb8qv
*8qx8rWfoA8smfV64cP4cTfXFfbu4cd8wa8wm8wx8wz8y18xU8ze8yw91N90491991a4eN933;/;*4ev956959fyx971978
*4ft97a3Vjg8MgBK4i64iF9EO9Fd9IA9LRgOm9Mp9NB9Od9Q7gZDYdA9RT9RE9S4Ygg9Vk9XMh0ch139cy9eT;/
*h6E9f99jk;9mJ+1;*9kq9qz9rRhQ29xT4tp9yBhWB4v8A2V6EsA43hlthpK4xK4xSA76hxK4yQhzaA7n;;*A8Hi4EABG
*50VACPAERAEsAFq530iQqAKIAPAASD57857dATvio257oiovitCivJAZP59KAaPAaUAabAalAasAbTj9U"

/-- Ranges with the characters that are combined again from what they are made of. -/
def combinedRanges : Ranges := .ofLengths 0 (numberRows
  ".36.1p3B463.1dSa3.12.5S.1Bn.42.4m5.2T.A9.2Q2.675.19.9T.9P.xg6.3N1111111111113x1D11173553171D11
11,015L.1LD.1L,0EtH.Zb")

/-- The classes of combining characters, with the lengths of the ranges of each. -/
def combiningLengths : List (Nat × String) := [
  (1,".DE5,01hj1D7.G9243A232,0FXJ1,06RK5,05RB1,01No3"),(6,",0OVE2"),
  (7,".c81.231.231.231.231.471.231.EM1.jM1.2r1.1I1,09QB1,06rO1.2y1.1O1.1j1.2s1.1J2.4H1.201
.441.3y1.6E1.4G1.GU1,0DaR1"),(8,",03Ef2"),
  (9,".cP1.231.231.231.231.231.231.231.1l2G1.201.1n1.231.3F1.2u2.SH2U1.2X1.AX1.3f1.1d2.182
,01AR1,089u1b1.2R1.2I1.1k1.4z1.3y1,06HR1.Os1f1E1v1.1x2.2F1.1s1.2u1.1a1.3w1.231.441.231
.1u1.1s1.4L1.4B2.2b1.1L1I1.1J1.6n1.4C2.1J1"),(10,".NU1"),(11,".NV1"),(12,".NW1"),
  (13,".NX1"),(14,".NY1"),(15,".NZ1"),(16,".Na1"),(17,".Nb1"),(18,".Nc1E1"),
  (19,".Nd2"),(20,".Nf1"),(21,".Ng1"),(22,".Nh1"),(23,".Nj1"),(24,".Nl1"),(25,".Nm1"),
  (26,",0Gis1"),(27,".Pz1.Au1"),(28,".Q01.Au1"),(29,".Q11.Au1"),(30,".PA1r1"),
  (31,".PB1r1"),(32,".PC1r1"),(33,".Q51"),(34,".Q61"),(35,".Qa1"),(36,".TB1"),
  (84,".ov1"),(91,".ow1"),(103,".wi2"),(107,".wy4"),(118,".ym2"),(122,".z24"),
  (129,",011l1"),(130,",011m17421"),(132,",011o1"),(202,".Cv242,01m31"),(214,",01z41"),
  (216,".Cp1.o11,0Tyl275"),(218,",01zm1,01D51"),
  (220,".Ck425242B54A3324422.98141416621Q1.2J25121.2716121.1512123121131111111.2j1A1.1T3z3p5F1
2121336122.1P1.Np2R111.2I1.3C1.Zp1.3Y1.1e1r621122251.2b1.5o524D1.3Q17141f13111.C0134
,094V3.6I1,05YY7.Fj1.3e1.Tc1i1.2l1.I323114o111,0Cur872,01Y47"),(222,".N81I1,01Ih1,01Wl1"),
  (224,",03Cw2"),(226,",0Uzl1"),(228,".NS1,01GM1.Lt2,01D81"),
  (230,".COLe811333341317D.4R5.4I41326621221K1.1D8x22512.1v724112222.151121231211311111112.2a7
11Y4191315.1i134g55E221213631225.1J112.2j1.Ml222.Fp3.IX1.5c1.3Y1.1V8p562422514.2W117
.5c37241J132.3C217124b5121.Bd2243241511161.nW3.3qW,081H14AW2.1I2.7yI.7C112325211,05YE7
72.Lm5.RA1e1.2m1.9G4.6F2.2V311r111.673.9r735.3l1,05mT7,06oQ5W4.2O3.uh71H271215.4D7.631
z4.Q86"),(232,".Cj141z1,01lt1,01DB1"),(233,".Ds12121,01lp1"),(234,".Dt212,01l51"),
  (240,".DV1")]

end CodeReview.Text
