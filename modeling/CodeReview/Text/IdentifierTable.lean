import CodeReview.Text.Ranges

/-!
Characters of identifiers outside ASCII.
-/

namespace CodeReview.Text

/-- Code points above 127 that may start an identifier. -/
def identifierStartTable : Ranges := .ofLengths 128 (numberRows
  "g1A1415N1V1.7O4CE57111.2551233116113111K1.1L1.2F8.2g1c216f.19R44jhZ21.1b11F272A321G11UT.1RB1OX92
415M419131NP7B5O16Hgws31I17AFG48222M17113431G1D213E2A186422M17121212V411J3G9131M17121531I1F2N1B8222
M17121531U213F1H116331432111232333CM1q8131N1G31Q32122U148131N1A1531V212F2H9131f21G15383O65I3O191127
wm11D7w211151O111A11A12511L4W1.1181aR5.1rhK1G6443132734DC1Hc11512h1.5N142711142f142X142711142F1v142
.15bGG.1O263.A02H1Q5.1D3B7IDJEIED13FqZ141.15.1R7f115.18AVnU25Bi4QsN9r.1K1.1VlH8sUD2AiQaf3Aa297h23f4
1612315.36.12.4U262c26281111111V2r1711331734264D5317.1s1D1GD.1d1412A11266111111G245541Hf.hD.3h6432C
c11512u71GN9717171717171717.8s3P975254.1O631.1S145h1.1WHWmG.8G,01iK.12,05lN.15k2.4L3GA2KlGV2.1Id92
.1f2.12521115OG13141NTqEo.1063112BSANPT7lS1G51AA51fN318KN313o1132252111O32B73C6262697171h1E6.1rT
,02uCCN4n,02CK.5u2.1ic7C5511A1D151112121.1kX.2F6.3WI.122seA.1v111311111111.22aQ6QBu2V36262623ZC1Q1J
121F2EY.1z.17r.4JT3nlWDU5cAU2a4815g.2YIa4a4e8qCB1F17121B1F1712.15.519MA8O61g19.176211i12312NAN9V.13
J12AMAQ.18u62.121F4131TgT3TZ81SRsAMAJDI.1m.1BtpDpDa.5cg62.1GTA18MgIkLRNCrv221DjWPQaT1218Z31CmE4L111
ZI1P.1M711141F1A7lc8222M17121531I1C5.2YrI4K3UmK211.2ylf4amK1xhD1.19Rb7.2zi.1s.12V82128121OF111.1W82
dG111S1Ae71L1BkJ1I.1B.4F91bH1nU.1o7121cL1P6121WE1.5HJ.331.1H.Es.1e.1nH.3A.gW.1ZF.HH,013J.9P,02FF.9B
7VH.1HHUImG4VL5J.B6.12.24.1D51.14D.12211S,01ay8.Jyg9,02K7417121.4hj3H48.6O.bE.1j5D397A,01Yc.1N1.191
22122241C11171.131428171S141511371.5U2P1P1V1P1V1P1V1P1V1P18.TkV.7ljA7G1.5BUIi.KS714121F1.3Bx.1671
.JQ41R1211211A141111614111111312112111111111121124171414111A1H53151H,019I,0B72W,014z7.3a2,01UwE
,01wX.o3.8k.OI,01Hf")

/-- Code points above 127 that may follow in an identifier and not start one. -/
def identifierContinueTable : Ranges := .ofLengths 128 (numberRows
  "t1.9Q.1oN1.435.4Hj11121211.1ABmV61.1d72622142AN1UR.1TBFAX991O4191315h3y8gO1Xs31I17A22AH3u1172223
91A22AE123u115422331KC31B3u1181313K22AA613u117222373A22AI1x5331491EAG5t117131472B22AH3u117131472B22
AG4t217131491A22AH3.1814611186A22z118C81A.1P11AB62A.1026AB1111142nK125B1a91.1cK1AC443132734DC1F.BL3
99.Ey4S3T2U2.12W912AX31B.2J1.1uC4CAA.24By5vA1T2B6AME1Gn5lHBAH9C3UD2AiEmK8A6A.1u31L416123.3C.12.9H2J
1.1zD413C.nW3.2H1.1YW.8w6.1h2,07pFA.1714AW2.1I2.4O13141N541.1L2oIAA6IDBS8PDi4lEFAB1AAlEC1822AX3o113
225211f552.3o8122A,05Gm1.BtGGG32O3.36Ab1.1W2.9l1.3e1.2P5.4jA.M331254e341.2f2.9F48A.5x2.2TBn4.1y3rFV
B22A4jB71jA63aE1A52i1C3mE841C.1KC61.2aC5A64t217222391A22735.36I9A41.1JKCA.3R729R2.1KHFA.1JD8A.1LF4A
.3uF.2fA.18612241112CA.1v72731SAe714819BkG.6X818GAuM1E.1y6311217118Am512158A.5J4,051NA.1OAc5x7PA.GL
11t74.1J1B2,056Z2,01Dtk2N.8k5368827U4.2O3.Mro.8Gt4o81E1M51F.Lw71H271215.4D79A.5k1zE.O67.1l75A,01EkA
,3Iv8.3s")

end CodeReview.Text
