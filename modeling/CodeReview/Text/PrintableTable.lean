import CodeReview.Text.Ranges

/-!
Characters outside ASCII that have no visible form: controls, format characters, separators,
private and unassigned code points.
-/

namespace CodeReview.Text

def unprintableTable : Ranges := .ofLengths 128 (numberRows
  "0XC1.BW2647111K1.6P1c2o231t8R46HM1.361m2x2.1dEx2n2F1S211B5V9.1C1.2b18222M1711342922248142152P2
316422M17121212211542233174117HA319131M1712152A131321F42C771318222M1712152922237342152IA216331
432111232333C4533142161EL5D131N1G291314721321242A7M131N1A152913147262142A12DD131p13164G2Q131I3
O191127314611186A23Cw4Tb211151O111N2511162A24W.1A1a4d1a1F1Db.3C11512.65142711142f142X142711142
F1v142.152W3Q6.1O262.AK1S3.1R7M9O9KCD1312C.1W2A6A6E1B6.1R7h5.18AV1C4C413g25Bi4Q6B3.102.131T2B6
A6E2Vn.1F3l1.1s8y3F3y7h2B8h5.8c262c26281111111V2r1F1E261J2319HO8lH22R1D3XFXF.2G4.AhPBL.TE2W1
.5d5j11512u72EO97171717171717171.22YQ1.1RC.3SQC5.111.1O2.1f5h1.1W1.1MCl1,07cT3t9.5cK.2y8.3H521
115Ox3A6u8.188C6.1sBU3.1G1B4X1t9E2A2.1fOSA6262697171y4.222A6,02uCCN4n4.X2,01fE.5u2.1ic7C55Q151
112121.21G.7B2s71Wg6p1J14451.2B4.34362626233717D22C1Q1J121F2EY.1z534j3.1Q1D31lk.26T3nFS4a9U5h5
U1b4Eg.2Y2A6a4a4e8qBC1F17121B1F1712.15.519MA8O61g19.176211i12312N1.1A89mJ125X3R51.12u4K2o12581
31T234A797.12Wd4C9s3T2R5Q74C7.1I.1BtpDp7k8A.4kV1g1322.1Ge8gMQcSKN9.1G4a9.1015DP7A6r1I8d9.1Y1KB
I1i.13711141F1B6x5A6418222M1712151A22232161572735.2F.1U15U.1A8A.2gs2cY.17BA6DJw6AsR2F4N.2zy.1c
.1LC82128121U122C9A.1882k2BR.1A8.1LD.1B.4F91j1EAT3W2M1E.1B7121i3112198A66121b12167A.50P.2x1FoD
.Et.1e.1n15B.3A.gW.1bD.HH,013J.9P,02FF.9B7V1A4.1J1A6U26A.18AA171L5J.B6.1T.1d.1D4v7H.125B2E
,01ay8.Jyg9,02K7417121.4hj3H48.6O.bE.1j5D397A24,01Dsk2N9.1sy.3yAd2.1C8.1oL.18.2UKC.1P9P.2B.1N1
.19122122241C11171.131428171S141511371.5U2.4i2.BKF51F.HoV.3d71H271215.3Rj3E2A42.5AVHw51.K87141
21F1.3B2Gf.1E4A42.Cf.16.1Ez.3841R1211211A141111614111111312112111111111121124171414111A1H53151
Hq2.4Mi4.1cCF2F1F1bA.2ouTDi4972E6.2U.Fs5G3D3.1sC.1R7C41FC4u8A6e8U22.1G.5UCE2535379T3B56AA68879
.2N1tbA.Gc,0B72W,014z7.3a2,01UwE,01wX.o3.8k.OI,01Hf,30Jp.3s,0p16")

end CodeReview.Text
