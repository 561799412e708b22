import CodeReview.Text.Ranges

/-!
Case of the characters outside ASCII: which are in lower, upper or title case, and what they become
in another case.
-/

namespace CodeReview.Text

def lowerCaseTable : Steps := .ofLengths 128 (numberRows
  "g11A11411aO11811S20920O22320212222113214112113312112322220222113222212316112112920A20112223U20
612112211114520.1611a1721U51.1Y11h22311241I11RZ11213311C2041111211221pm11H29R22720n2mf1.kZh123
1.CG61.Z891.1v.361.13.1D20811n2081861A81881861A818818E1281881881851121611331121841221881A31121
.1x11D11GD1.1l11321311R11411411221841411XG1411.DbQ1.U2m11113211324220220713o2011722411Cc111151
1,083vN2JE2021.29720211V20911222524222220211A2511582422652S22021.DFh11D17.1I1,05HE71C51.HBQ1
.Jpe1.2Ca1.2VB11F1171121.7H112311g1191.Kjp1.mjW1,05h2W1,06lWQ1Q711I1QQ1Q411220611B1QQ1QQ1QQ1QQ
1QQ1QQ1QQ1QQ1QS1SP1161QP1161QP1161QP1161QP1161111.TkA11K1.fLY1")

def upperCaseTable : Steps := .ofLengths 128 (numberRows
  ".12N1171XS22822O203232112202202124112113132112113202222202202112201131171121121128229221122202
11T2721121222031142.4f223118116220211220220G1191Z112313C25112220112p1mH29S20722m22c1.kbc111151
1.Be.1O1.ZWh1231.5A.1D29n2981861A81881861B42881.1A41C41C41C51B41.4E11411331231211351642031241A
21511QG1J11.DCQ1.Tgm1m220212420311112118311n2822411,084rN2JE2.2B723V2A320524222223B20411511820
31111611522S11,05nvQ1.Jhe1.2Ca1.2WB11F1171121.SYp1.nFW1,05h2W1,06lcQ1QQ1QQ1Q22011211221241181Q
Q1Q21141281171R21141151111371RQ1QQ1QQ1QQ1QQ1QQ1UP1XP1XP1XP1XP1X11,0193Y1.XGQ16Q16Q1")

/-- The digraphs that are in title case as they stand, and the Greek letters with a small iota. -/
def titleCaseTable : Ranges := .ofLengths 0 (numberRows
  ".7J12121c1,01y988888C1F1l1")

/-- Characters that are passed over when the end of a word is looked for. -/
def caseIgnorableTable : Ranges := .ofLengths 0 (numberRows
  "d161B1Z111.19141114122.87.3642419211.437.3L151nj11121211i1B6AB11Z1ALG1.1d81A14X111UR.1TBwB4121
OOh3i17268fwt111484137A2D1F1w14481K2Q122v142422331U231B2v1451241K2M611w121148172B2U1z1C1o131t1
13531472B2T1w1216152K2S2v24481K2T1.1A17311.1S127B9.1a1299116.1C2R11111tE15125B1a91.1e4161222P2
43G4D12261F1.1W1.9o3.FG3T2U2U2.12217812B3151j5p1.132Y1.1u3429163.3X221w1171111286A21d18Vn4m115
1151e9C2W42213u1123113w822.126.1K31D17416132o.11D1Y.1d.7B113B3D3D3D2C582A12125n51A11D1GDpX.lf2
.1p3.211F1.1YWl1.7Z1a43551.1V6.1V3,07Og1.KA6.4M1.1a41A11S4.1I2EY.1G1N3.1f332813141P251.2R2QID1
c8PBk3m12422H1L2.1462222C181Z1B1p113225211R1E25211.1c593.1x12141,05Gy1.2NH.9FG31CGY121.2j17161
B1Z111l1j2.151L3.8H1.3e1.2P5.Gb61g19.9O31254e341.2f2.9F4.6F2.2TBn4.1z1sFf122A3n4222141A1o3a518
.101C2q9A421.1X3211261.2a138L2v231b735.3982311N1.1M6114212.3q46212R2.1N82112.1i1112611.1d32415
.4B912.4821141.2K42241WAe624819623kD12.6Y71611.1KM271212.1y631121711.1A23111.5b2,01Pf9,03dv5x7
94.Gh1.11H.12212,04GR41712.q6214,01Dok2N.8m39G27U4.2O3.Vvt4o81E1M51F.Lw71H271215.4DE.5w1z4.OG7
.1l8.i75,3JNx1U.1Y.24.3s")

def toLowerRows : Moves := .ofLengths 128 (numberRows
  ".12N10W1710WXO201111.3D013201282012N201111.1x0032013110.3O022011110.3K011011210.3J011012110.1H
0110.3G0110.3H011011110.3J0110.3L1110.3P0110.3N011013110.3P0110.3R1110.3S032011110.3W01101
1110.3W211011110.3W011011210.3V022011110.3X01101311017110201101111020110111102092012920121102
02201111.1Z0011u00K201111.260192017110,02o701101111.2d00110,02o421101111.3900110.170110.19
05201.4f2201311018110.1s6110c1310b1110.121210.111H10W1910WZ11088C201511y0211011117001101
231.2600G10.1I0W10WmH2019R2011110F072012m2012c10m.kbc10,01tA1110,01tA5110,01tA.Be.1I10,0A6q
06108.ZWh1.mW0231.mW0.5A.1D201911,01yp01m2019818086180A81808818086180B428088180O81808818088180
82180021.1C001190B41.1O001190B2180021.1c0C2180021.1o001170B21.240021.22001190.4n11,01xF0
311,02BD0011,029G06110SjG10GJ1101.DCQ10Q.Tgm10mm1101111,02nH0011.zW0011,02n1023201111,02ns0
011,02nN0011,02nv0011,02nu01110121101821,02oR00o2018220141101,084rN201JE201.2B72013V201A2201
111,09Bs00520141101111,0Azw0222013A201111,0B0O0011,0B0Z0011,0B0V0011,0B0L0011,0B0O0111,0Aza0
011,0Azy0011,0Azd00110.Ey08201111m0011,0B0N0011,09Ci0022016110152201S1101,05nvQ10W.Jhe10e
.2Ca10e.2WB10d1F10d1710d1210d.SYp10.12.nFW10W,05h2W10W,08AKY10Y")

/-- Characters whose upper case is not the one that they are the lower case of. -/
def toUpperExceptions : Moves := .ofLengths 128 (numberRows
  "r110.Bzf1100.1J11.3k0.1F11.4q0.1711102111021110c1110.5S110.1M.2011V0D11.100011v0311l0011s0
P11.1O0011.1I0311.1Y0,01dK11,01cs0011,01cr0011,01ci0021,01cg0011,01ch0011,01ca0011,01bh0
0110,09Ao.8Y11x0.3g81008810088100B1100A11,01sD041100l1100")

def toUpperRows : Moves :=
  toUpperExceptions ++ toLowerRows.map fun r =>
    ((r.1 + r.2.2.2).toNat, (r.2.1 + r.2.2.2).toNat, r.2.2.1, -r.2.2.2)

/-- Characters whose upper case is more than one character. -/
def toUpperLong : Runs := .ofLengths 0 (numberRows
  ".3b1.1L.1L0.1h1.BI.1G0.2g1.1C.Ca0.6h1.Er.CW.CPV1.F3.CW.CP.7a1.LV.Ly0,01fS1.1A.DB001.1M.CW0
01.1P.CY001.1R.CY001.13.BK0.2v1.F3.Ch011.F3.Ch.CO11.F3.Ch.CP11.F3.Ch.DSf8,0248.Er008,0248.Er0
08,024e.Er008,024e.Er008,025g.Er008,025g.Er021,0270.Er001.Ej.Er001.EY.Er011.Ej.DS001.Ej.DS.Er
41.Ej.Er051,027G.Er001.Ep.Er001.Eb.Er011.Ep.DS001.Ep.DS.Er41.Ep.Er051.Er.CW.CO01.Er.CW.CP
21.Er.DS001.Er.CW.DSA1.F3.CW.CO01.F3.CW.CP01.Ez.Ch011.F3.DS001.F3.CW.DSA1,0282.Er001.F7.Er0
01.Eh.Er011.F7.DS001.F7.DS.Er41.F7.Er0,0EaJ1.18.18001.18.1B001.18.1E001.18.18.1B01.18.18.1E
01.1L.1M001.1L.1M0C1.Lk.Lm001.Lk.LV001.Lk.Lb001.Lu.Lm001.Lk.Ld0")

/-- Characters whose title case differs from their upper case. -/
def toTitleRows : Runs := .ofLengths 0 (numberRows
  ".3b1.1L.1r0.3g1.7J0001.7J0001.7J0001.7M0001.7M0001.7M0001.7P0001.7P0001.7P00a1.820001.8200
01.8200.El1.LV.Mk0.kah,017Q0023,018900.xs8,026C0008,026C0008,026S0008,026S0008,026i0008,026i00
21,0270.DV001,02720001.EY.DV021.Ej.DS.DV41,02720051,027G.DV001,027I0001.Eb.DV021.Ep.DS.DV
41,027I00b1,0282.DV001,02840001.Eh.DV021.F7.DS.DV41,028400,0EaJ1.18.1e001.18.1h001.18.1k0
01.18.1e.1h01.18.1e.1k01.1L.1s001.1L.1s0C1.Lk.MY001.Lk.MH001.Lk.MN001.Lu.MY001.Lk.MP0")

end CodeReview.Text
