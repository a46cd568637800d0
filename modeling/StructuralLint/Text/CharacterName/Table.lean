/-!
# The table of character names

The names of the characters of Unicode 14 in the order of code points, in a compact notation. An
entry opens with a digit: the number of words that the name has in common with the name before it.
The codes of the other words follow. The code point is the next one after that of the entry before,
unless `+` and the code of a number follow the digit: so many code points are left out.

Numbers are written with `leadingSigns` before one of `closingSigns`, which ends the code, so that
small numbers have short codes and no code opens another one. Names that can be computed, those of
ideographs and of Hangul syllables, stand in no table.
-/

namespace StructuralLint.Text

/-- The signs that end the code of a number. -/
def closingSigns : List Char := "abcdefghijklmnopqrstuvwxyz$%&()*,:;<=>".toList

/-- The signs before the last one in the code of a number. -/
def leadingSigns : List Char := "ABCDEFGHIJKLMNOPQRSTUVWXYZ]^_|~".toList

/-- The table. -/
def characterNameText : String := "
  0+,I(0Hlw0Grw0Dbf0Vkf0|vf0S$0Rg0kEv0iEv0Ei0Akf0Dh0AC)0D,Cu0Ie0BgB(1s1o1x1(1:1Ae1Am1Af1Ar0Gd0O:0D
  jf0Ftf0Dnf0G%w0^eH)0D:ebm3Ce3B*3Bw3q3C&3Bk3Bt3u3Cq3Bn3Ah3A<3Az3n3B=3Dl3Aa3Ab3Bo3l3Bp3Ci3Cd3Bz3B:
  0kAvAs0JgIe0iAvAs0CfFb0BsC:0C(Fb0D:cbm3Ce3B*3Bw3q3C&3Bk3Bt3u3Cq3Bn3Ah3A<3Az3n3B=3Dl3Aa3Ab3Bo3l3B
  p3Ci3Cd3Bz3B:0kHjAs0AdC:0iHjAs0Bf0+:AQxI(0C<Hlw0BBsf0AFnf0^if0~=f0XtAj0Iaf0Co0BCof0BGwBUsTs0JmtD
  &Grw0Dkf0M;Or0H~;f0C>0ABjf0HXhf0N*o1x0BuFb0GZvf0BWdf0>v0Gv0N*s0GWfBUsTs0H=tD&Grw0AW&JysF:3Ao2xMh
  0C<G%w0D:ebmaC(5Bu5Cf5Bf5Co5Bhj3F;3B*aGv3qaC(5Bu5Cf5Co3uaC(5Bu5Cf5Co3Ti3AzaBf3naC(5Bu5Cf5Bf5Co0P
  rf0D:ebna*3laC(5Bu5Cf5Co3BzaBu3U(1cbZ&Ab3maC(5Bu5Cf5Bf5Co5Bhj3F;3B*aGv3qaC(5Bu5Cf5Co3uaC(5Bu5Cf5
  Co3Ti3AzaBf3naC(5Bu5Cf5Bf5Co0Tcf0D:cbna*3laC(5Bu5Cf5Co3BzaBu3U(3BzaCo1ebmaC>1cbmaC>1ebmaDr1cbmaD
  r1ebmaMe1cbmaMe1ebB*aBu1cbB*aBu1ebB*aCf1cbB*aCf1ebB*avj1cbB*avj1ebB*aEm1cbB*aEm1ebBwaEm1cbBwaEm1
  ebBwa*1cbBwa*1ebqaC>1cbqaC>1ebqaDr1cbqaDr1ebqavj1cbqavj1ebqaMe1cbqaMe1ebqaEm1cbqaEm1ebBkaCf1cbBk
  aCf1ebBkaDr1cbBkaDr1ebBkavj1cbBkavj1ebBkaGv1cbBkaGv1ebBtaCf1cbBtaCf1ebBta*1cbBta*1ebuaBf1cbuaBf1
  ebuaC>1cbuaC>1ebuaDr1cbuaDr1ebuaMe1cbuaMe1ebuavj1cbM$u1eF*BKv1cF*BKv1ebCqaCf1cbCqaCf1ebBnaGv1cbB
  naGv3GG*1ebAhaBu1cbAhaBu1ebAhaGv1cbAhaGv1ebAhaEm1cbAhaEm1ebAha>v1cbAha>v1ebAha*1cbAha*1ebAzaBu1c
  bAzaBu1ebAzaGv1cbAzaGv1ebAzaEm1cbAzaEm4HYmOgRg1ebOm1cbOm1ebnaC>1cbnaC>1ebnaDr1cbnaDr1ebnatBu1cbn
  atBu1eF*E=1cF*E=1ebAaaBu1cbAaaBu1ebAaaGv1cbAaaGv1ebAaaEm1cbAaaEm1ebAbaBu1cbAbaBu1ebAbaCf1cbAbaCf
  1ebAbaGv1cbAbaGv1ebAbaEm1cbAbaEm1ebBoaGv1cbBoaGv1ebBoaEm1cbBoaEm1ebBoa*1cbBoa*1eblaBf1cblaBf1ebl
  aC>1cblaC>1eblaDr1cblaDr1eblaBhj1cblaBhj1eblatBu1cblatBu1eblaMe1cblaMe1ebCiaCf1cbCiaCf1ebBzaCf1c
  bBzaCf1ebBzaCo3B:aBu1cbB:aBu1ebB:avj1cbB:avj1ebB:aEm1cbB:aEm3CbAb3Cea*1ebCea)5AHu1cbCeaAHu1ebChA
  e1cbChAe1ebB;n3B*a)1cbB*a)1ebAItBw3Bwa)5AHu1cbBwaAHu3CaJj1ebCnq3Q$3B;q3C&a)1cbC&a)1ebBka)3Iu1cbA
  C(1ebGi3ua*3Bna)1cbBna)3AhaAj3GK*a*1ebCaA<3Azak)1cbAzaCbiK*1ebna>Bf5Fx1cbnaFx1eb|l1cb|l1ebB=a)1c
  bB=a)1bCDy1ebCho1cbCho1ebKc1bCnKcKl1cbBoaG$)1ebBoa)1cbBoa)1ebBoaEx)3laFx1cblaFx1ebG=3Bpa)3Bza)1c
  bBza)1ebB:a*1cbB:a*1ebRx4Cn1cbRxCn4aDv1boa*1ebCh:1cbCh:1bC<G)Cua*2AId2AK=Pg2BNkPg2A_)Pg2ExPg1ebT
  faEm3BwacbB:aEm1cbTfaEm1ebBOc3AhacbCq1cbBOc1ebBS<3AzacbCq1cbBS<1ebmaEm1cbmaEm1ebuaEm1cbuaEm1ebna
  Em1cbnaEm1eblaEm1cblaEm1eblaCogC>1cblaCogC>1eblaCogBu1cblaCogBu1eblaCogEm1cblaCogEm1eblaCogC(1cb
  laCogC(3Caq1ebmaCogC>1cbmaCogC>1ebmavjgC>1cbmavjgC>1ebF;aC>1cbF;aC>1ebBka*1cbBka*1ebBkaEm1cbBkaE
  m1ebBnaEm1cbBnaEm1ebnaMe1cbnaMe1ebnaMegC>1cbnaMegC>1ebRxaEm1cbRxaEm3CqaEm1ebTf3BwacbB:1cbTf1ebBk
  aBu1cbBkaBu1ebBKe3AId3AzaC(1cbAzaC(1ebmaBhjgBu1cbmaBhjgBu1ebF;aBu1cbF;aBu1ebna*gBu1cbna*gBu1ebma
  tC(1cbmatC(1ebmaC<Dr1cbmaC<Dr1ebqatC(1cbqatC(1ebqaC<Dr1cbqaC<Dr1ebuatC(1cbuatC(1ebuaC<Dr1cbuaC<D
  r1ebnatC(1cbnatC(1ebnaC<Dr1cbnaC<Dr1ebAaatC(1cbAaatC(1ebAaaC<Dr1cbAaaC<Dr1eblatC(1cblatC(1eblaC<
  Dr1cblaC<Dr1ebAbaDhp1cbAbaDhp1ebBoaDhp1cbBoaDhp1ebCDx1cbCDx1ebBtaEm1cbBtaEm1ebAzaCbiK*1cbBwaIr1e
  bUc1cbUc1ebB:a)1cbB:a)1ebmavj1cbmavj1ebqaGv1cbqaGv1ebnaCogC>1cbnaCogC>1ebnaBfgC>1cbnaBfgC>1ebnav
  j1cbnavj1ebnavjgC>1cbnavjgC>1ebBzaC>1cbBzaC>3AhaIr3AzaIr3BoaIr3M$Cq3BDnG(3H^sG(1ebma*3B*a*1cbB*a
  *1ebAhaAj3BoaEn*1cbAba]aDv3B:a]aDv1ebG)Cu1cbG)Cu1ebCea*3lAj3CaBp3qa*1cbqa*1ebCqa*1cbCqa*1ebcDla)
  Dv1cbDla)Dv1ebAaa*1cbAaa*1ebBza*1cbBza*3Cam3F&3CaF&3Cea)3B;n3B*aIr3BwaDv5)3Cnq3Q$4a)3B;q3CnB;q6a
  )3FsCnB;q3M$Cqa*3Bka)3H>Bk1bceBk1cbIu3BX)Fx3CaBt3Bta)3^<a)3ua*3Gi1bceu1cbAha>Bf5Pe5Ex)3AO$3CaA<5
  aCbK*3A<a)3Azak)5Ex)1bceAz1cbQan1bceE=1cbFsFi3H$3CaAa5aCbK*6)3AaaCbK*5Dv5Vp3CnAaaVp1bceAa4C<Aa1c
  bAba)3Kc3M$Cqa*g)3B^)CnKc3KcaIr3CaBo3BoaEx)3lAj3G=3Bpa)3CaBp4Ci4Bz1bceBz1cbB:aEx)5Ir3Rx4aIr1bG)C
  u2BV&Q>FG(2C<G)Cu2AU%B*2AJkPg2ceCe1cbFsB;q1bceBka)4Bt1cbCqaRp3CaBn1bceAh1cbDla)1bG)Cua*2CnG)Cua*
  1cbTfG(3ABmG(3TfG(aIr3AWfG(3AHjG(3B|*G(aIr3AL<G(3BOjG(3BOuG(1bAJkBVu2DH,BVu1cbCaBtaVp7gDv0GpbcBt
  4a)3Cq3Aa3CaAa5a)3eC<Aa3Ci3Bz2O(2tO(2CaDh2Rg2CnDh2iAoBh2kAoBh2G)Cu2CnG)Cu2kCw2iCw2AcCw2AnCw2CfFb
  0Em0GpbAdC:2C>2BuFb2C(Fb2BsAdC:3C>3C(Fb3BuFb2I*Gd2AoI*Gd2S;iAoBh3kAoBh2AcF$2AnF$2Akf2Kmf0Dr0vj0B
  hj0Me0cBf0tBuFb0GpbIA=)2EjFb2cIu3Ah3Ab3Cd3CnG)Cu2AB:ChAj2CpChAj2V=ChAj2BsChAj2AB;ChAj2SyAK>Chw2P
  bAK>Chw2CCg2JM=2tRg2BsAnCw3AcCw3kCw3iCw3Bh2>C(Fb3tC(Fb4BuFb2BsBf2HqGd2S(CpCh2GmCpCh2S(BsCh2GmBsC
  h2B]e2B;B]e2Bskh0FcC(Fb1BuFb1CfFb1Bf1C>1Ud1Dr1vj1Co1)j1Bhj1tBuFb1Em1AdC:j1tAdC:j2C(Fb1Gc1C<Dr1Ca
  Dhj1Dhj1CnDhj1Dhji1C(Fbp1BuFbp1kF$p1iF$p1kD&j1Fx1kAoBhp1AcF$p1AnF$p1Akfp1Kmfp1HR=)p1Ex)p1vp1Cop1
  Bhp1Dhp1Gv1Me1AdC:p1Xsp1C<tA|mp1Emp1CfFbp1Drp1C<Drp1Bfp1C>p1BsC:1tBsC:1BfIn1D;*In1Cb*In1D;IeIn1C
  bIeIn1iAoBhp1C<Xsp1Avp1IIpp1Cdj1AdBf1tUd1C(Chw1BuChw1HxEr2AOj2MyJ,2Fl1Xsj1Ftfp1tAdC:p1kD&p1DkBfj
  1BJ;j1LaA=yj1kihp1Bvhp1FNmVz1iCwj1kAoBhj1BGx1Cdp1kCwp1iCwp3gAcCwp2AoBhj1vji1Eip1tBhp1Vbj1tDrp32C
  >3p2Bf2C<Dr2<hp1D:cbm4q4u4n4l4B*4Bw4Bt4A<4Aa4Bo4Bp4Cd0HxebBJp1cbBJp1ebJrZw1cbJrZw1Qxf1BlQxf1ebBU
  ;X,1cbBU;X,1+cFl1cCnQtHt,2FeQtHt,2CnFeQtHt,1G%w1ebAAa1+eJ,1MyJ,1ebF&aJ,1S%B|=1ebHkaJ,3I>aJ,3GiaJ
  ,3+bKnaJ,3+bG=aJ,3FiaJ,1cbGiaMygJ,1ebF&3Ju3Iu3Jj3Hk3N<3I>3H%3Gi3Ki3M)3Fg3Ga3Mo3Kn3Ew3Hh3+bHt3Ks3
  G=3H$3H,3K:3Fi3GiaMy3G=aMy1cbF&aJ,3HkaJ,3I>aJ,3GiaJ,3G=aMygJ,3F&3Ju3Iu3Jj3Hk3N<3I>3H%3Gi3Ki3M)3F
  g3Ga3Mo3Kn3Ew3Hh3rHt3Ht3Ks3G=3H$3H,3K:3Fi3GiaMy3G=aMy3KnaJ,3G=aJ,3FiaJ,1eY),1Ju,1H%,1G=a),3Bug),
  3Cog),1H$,1Ew,1Y),1bJrY=1cbJrY=1bAUv1cbAUv1bX,1cbX,1bY=1cbY=1bZw1cbZw0HwebUq1cbUq1ebBGv1cbBGv1eb
  Y;1cbY;1ebYv1cbYv1ebYl1cbYl1ebWp1cbWp1ebBD&1cbBD&0HxKi,1Hh,1QtHt,1bAAa1eH%,1QtHk,1CnQtHk,1ebPy1c
  bPy1eQtHt,2bZx1cbZx1Hha*,1eCnQtHt,2FeQtHt,2CnFeQtHt,0MwebK&aC(3ANq3ABo3AMw3AWtK&3Tg3BBbu3Hb3Os3A
  D,3T>3CAs3BMi3uaC(3D;l3BFb3m3L$3Lx3Kf3Is3K&3Lz3I<3u3D;u3At3It3Kb3Ea3n3Eh3L:3Pj3Fq3l3Qi3Aq3Na3H*3
  Ct3ATq3Qpf3P,3M;f3q3Fn3A:1cbm3L$3Lx3Kf3Is3K&3Lz3I<3u3D;u3At3It3Kb3Ea3n3Eh3L:3Pj3Fq3l3Qi3Aq3Na3H*
  3Ct3ATq3Qpf3P,3M;f3q3Fn3A:3K&aC(3ANq3ABo3AMw3AWtK&3Tg3BBbu3Hb3Os3AD,3T>3CAs3BMi3uaC(3D;l3BFb1ebF
  i1cbFi1ebSx1cbSx1ebLjq1cbLjq1ebDtG&1cbDtG&1ebLjDtG&1cbLjDtG&1ebMsG&1cbMsG&1ebLjMsG&1cbLjMsG&1ebA
  Ds1cbADs1ebK:1cbK:1ebVq1cbVq1ebY%1cbY%1ebY%atC(Fb1cbY%atC(Fb1eb]h1cb]h1ebO*Fi1cbO*Fi1ebFiaAHp1cb
  FiaAHp1ebAE:1cbAE:1ebY=1cbY=1U)f0FcMwAHp2HR<2ClBWs2CmBWs2HXs2ApU)f2V>f0MwebD;uaDv1cbD;uaDv1ebBZ)
  f1cbBZ)f1ebL:aQ*1cbL:aQ*1ebKfaAWw1cbKfaAWw1ebKfa*1cbKfa*1ebKfa>)1cbKfa>)1ebLzaE:1cbLzaE:1ebI<aE:
  1cbI<aE:1ebAtaE:1cbAtaE:1ebAtaAd*1cbAtaAd*1ebAta*1cbAta*1ebA~jAt1cbA~jAt1ebEaaE:1cbEaaE:1eF*EaKf
  1cF*EaKf1ebEha>)1cbEha>)1ebSzAq1cbSzAq1ebPjaE:1cbPjaE:1ebFqaE:1cbFqaE:1ebIfl1cbIfl1ebIfla*1cbIfl
  a*1ebAqaE:1cbAqaE:1eF*FqNa1cF*FqNa1ebH*aE:1cbH*aE:1ebH*aAd*1cbH*aAd*1ebAGp1cbAGp1ebSzH*1cbSzH*1e
  bSzH*aE:1cbSzH*aE:1bBU,1ebLzaDr1cbLzaDr1ebAta)1cbAta)1ebItaDv1cbItaDv1ebEaa)1cbEaa)1ebEaaDv1cbEa
  aDv1ebBMaH*1cbBMaH*1ebKbaDv1cbKbaDv3BU,1ebmaDr1cbmaDr1ebmaCo1cbmaCo1eF*mK&1cF*mK&1ebK&aDr1cbK&aD
  r1ebQ$1cbQ$1ebQ$aCo1cbQ$aCo1ebLzaCo1cbLzaCo1ebI<aCo1cbI<aCo1ebSzTg1cbSzTg1ebuaC>1cbuaC>1ebuaCo1c
  buaCo1ebnaCo1cbnaCo1ebQan1cbQan1ebQanaCo1cbQanaCo1ebqaCo1cbqaCo1eblaC>1cblaC>1eblaCo1cblaCo1ebla
  tBu1cblatBu1ebH*aCo1cbH*aCo1ebKfaE:1cbKfaE:1ebP,aCo1cbP,aCo1ebKfa*g)1cbKfa*g)1ebAqa)1cbAqa)1ebAq
  a*1cbAqa*1ebLlIs1cbLlIs1ebLlABo1cbLlABo1ebLlCEi1cbLlCEi1ebLlBFd1cbLlBFd1ebLlAD,1cbLlAD,1ebLlT>1c
  bLlT>1ebLlB^c1cbLlB^c1ebLlB~%1cbLlB~%1ebCnI<1cbCnI<1ebIta)1cbIta)1ebTz1cbTz1ebSm1cbSm1eb~;1cb~;1
  ebJo1cbJo1ebHv1cbHv1ebA_yAt1cbA_yAt1ebIta>)1cbIta>)1ebEaa>)1cbEaa>)1ebEhaE:1cbEhaE:1ebAGpaE:1cbA
  GpaE:1ebEaak)1cbEaak)1ebBFi1cbBFi1ebBDo1cbBDo1ebItaE:1cbItaE:0+b]$ebAI<3AJj3AMv3Bi3Ya3Ee3Qj3Nj3y
  3Lz3ANo3BOb3AXf3C$3_l3Hm3Cx3BIh3BB%3Sf3Hb3AEw3Ct3Q=3C*3Zq3BLc3A$3BZz3AW%3B~$3Gj3Oj3AXs3AR:3AN<3|
  k3Im1+cGpbkAoBh1Rg1BF*w1Hlw1Dh1G%w1J;w1cbCaAI<3AI<3AJj3AMv3Bi3Ya3Ee3Qj3Nj3y3Lz3ANo3BOb3AXf3C$3_l
  3Hm3Cx3BIh3BB%3Sf3Hb3AEw3Ct3Q=3C*3Zq3BLc3A$3BZz3AW%3B~$3Gj3Oj3AXs3AR:3AN<3|k3Im2F*YaAXs2bHba*1D,
  Cu1Or0+cAGa]$AL$f0AD(]$AL$f0]$BEzf0+bBJlFbFA;2ATj2IR=2J~;BXh3FJe2JE$2IA)2J~=2HTn2J^p2JCu2BH<3G|d
  2BH=2H]xBVa2B|>FKa2HT,2C|%FPm2G_:2GU:2GX(3GDc2EPp2H]s2B|>H]%2J^mAJjJ_n2HPz2F^w2EQ&2KBk1wGWhAx1Nv
  ISx2FQhATj3AFb3AFr2BJy2JIf2ATj2AFb2AFr2BJ*3FQgFf]j2H^w2IkB<APf2GX<1EsGV$1NvAFw1EsHTl1NvGsv2AGxv1
  EsB^pHTu1wB,v2Blv1EsEgFPn1NvAFrBXh1+ibA;2Xp2Lf2ABh2E&2]j2Nd2BJo2W)2Rc2rGn2Gn2AD$2rJ(2J(2rEg2Eg2L
  q2Ob2rEh2Eh2rAWg2AWg2ASt2N$2Gs2AVf1+eRcBm1F*CDst]j3]jRc3tRc1EsBH<2BH=0+lJqDbf1fIHf1BHaT(1fBZj2IH
  d1Dbwj0P=AKv|=1ACh|=0JqBX,0P=ARxBQ,f2CcA(f0CY:f0JqDh1BDlIb1HXoAW$f1fG]u2BZm]uJV;2]uC|l2H|)]u2BX%
  C]iC^c2JAw1cCpG<3F*A;aFmaA%3Mq2On2Qg2Nn1O:1bw1Gm&Uzw1EkvEsw1G%w1bBLzA%2Fo2A;aSej4Foj2FkaFoj2A;aF
  op2A%aFoj2A;2Ji2J*APg32O=2B>2By2Dy2Mx2W*2Gj2Mq2Hi2J)2Io2Jw2G<2P:2F%2Kz2Y:aoAyj4xAyp2VnA%aC<Bp5oA
  yj5xAyj1AHg1bIm2Hp2Gn2Fm2Ai2Fd2Gx2Fk2A;C,2A%1Yh1^j1_j1On1Qg1Nn1Z%1Wx1BP%j1Foj2p1WwA;1C<Qg1wFdACm
  1KB=1BbfcBpj3C<cBpj3vp1CnQg1OnaoAy1RaFop0P=BgB(2s2o2x2(2:2Ae2Am2Af2Ar0Jq|vf1AK;Ib1U)Ib1:FvDo1bM$
  Ji3Hp2N*A;2A;AW*3aRaFoj6p2CpFo4A;4Fk2laFoj2CpFoA%2AWj2CAz2A~x2J*aBh4xAyjBj2Zq2B|<2A~$2ByaFoj4oAy
  Adj2BT:2BE>2ByaxAyj2AHh2B|:2BDr2MxaBh4vp6gcG<2BC=2BDq2BE:2MxaxAyjBj4(Ayj2BY=2GjacBp4Bh4vp4cBpp4v
  pgvj4oAyj2BLb2Gja(Ayj2Hiavpgvj4xAyp7gxAyj2IoaoAyp4xAyj2G<axAyj2F%axAyj2M$Im2ImavG^>p5p2CB;2ImaxA
  yp2BVn2Hpavj4xAyj2Y:2]aGn2GnaBh4vj2K,2GnaxAyp2Yk3aBh2BS%2YkaoAyp2BI$2YkaxAyj2FmacBp4vj4xAyj6p2Fd
  avp3ACm2BYz2FdaBh4xAyj2GxBEq2AHhavj2GxaA%j3ACo4aFoj2J*APgACo2FkaBh2_pE=2E=2l2Fn2_pFn2FkaoAyj2Lx2
  VnA%2A%aDv4cBp2Fkavj2q2A%axAyp3AAv4aFoj1D,Cu1bF;1cCpF*IoaFmaA;C,4HpaFmaA;C,3Ai;d3FmA;3B>3xAy3Hi1
  Gm&A|*1AG<&BZaItFSv1cCpQyB(3JNqBX=B(3M$Jz&Dy3Ai$d2BsHi2CpSe2Fk2A%2CpA%3Fd1Wg&IGx1VlDqBsCu3CpCu1Q
  yCpCuaFE<Dq1cBsAi1bMxaC<Bp2GjaC<Bp0TjP=BgB(3s3o3x3(3:3Ae3Am3Af3Ar0JqbJ)avp2Jwavp2Kzavp1fIU,S$3HX
  ;Sf1bGxaC<Bp0AHeGm&|t1AU,D,Cu1AU)D,Cu1AU,Gd1AU)Gd1BcGd1GdAT=k3i1AU,GdAT=k1AU)GdAT=i1EKn1FQeHPa2G
  X>2C|n1+bJ;w1bA_w2N*A_w2Kw2FJj3BHx2BC>2M$BC>AS:2E&2Fk2Mq2L;2Q)3BHx2J|a3E&2Lk2GK)2AEf2Eg2BZ*2rBZ*
  2q2Eh2CnEh2Mj2H]v2AS:2Gs2Lv2BVwA~*3FLl3ERz1HZij2p2Fe1KBxj2p2Fe1H~oj2p1FeKBqBc3C]>1FQqj2p1FQrFe1F
  Azj2p1IEo1BGwv1H_b1ID*1oAdAyj4p1xAyj3p1MdC:j3p1BRu1DF*1+cbAUiKAm3BMb3Oo0JqbJiaxAyFW$p4vpgxAyj4xA
  yDaBvp9goAyj4oAypgvj4C<cBpp4cBp2ByaoAyj4xAyDaBvp2MxaoAyXbpgcG<4C<cBpp2Gja*2Hia(Ayj2F%aoAyj4xAyDa
  Bjj4oAyXbj2ImaoAyp4xAyDaBvp2Y:avj4xAyj6DaBvp2Aiavj5p2FdaoAyp4cG<5Bp2FmaAj2GjaoAyXbj4Foj2HiaoAyXb
  j2ByacJqbG<p8goAy2HiacJqbG<goAy2GjacJqbG<goAy2ByacJqbG<j2A;aTjP=Bgoj7xj2VnA%aTjP=Bgoj8xj8(p2FkaT
  jP=Bgoj7xj2A%AAvaTjP=Bgoj8xj2ByaTjP=Bg(p2HiaTjP=Bg(j4C<Bp2GnaoAyj0JCybR(2ISh2HIb2|)2AAq2GMq2GBr2
  C]c2JQl2GXl2FDs2ERw2~m2GJe2FJc2FMw2IIw2EPu2KAa2JBh2]p2HT(2F|(2DOs2CAx2BJr2BL=2JCx2CEb2ISm2IGp2EO
  &2y2Pc2CZs2FLk2H]q2JVs1CX<1CVr1FZt1E|;1JMj1HP>1E|)1FBy1HPe1HO;1Wx1bZi0+oHGzBgB(2s2o2x2(2:2Ae2Am2
  Af2Ar1bm2Eu2u2q2l2Ed2n2EO<2Az2B$2Aw2Be2Cx2C*2Bi2A$2Jp2Bd2AMq2E%2At2A)2A,CC)2A*2C;2A,2Aq2Cy2A:2C;
  CC)2F~>Cx3C*3A$1FcD;CpCh3BsCh3N%Ch2CbALaCh3CpCh3BsCh3N%Ch2AQcw2tvj1CpChRg1BsChRg1,EdERb2FJz1Dh1H
  lw1GJw1+cEPn1EUdf1JA$f0BZobCZ(2BAa2FJk2EPf2ANw2AAq2AAc2ANv2B~y2AIj2BLq2GJi2AEf2Eg2IU;2Dx2Pk2JIc2
  H^z2AS:2Px2JAf1wDx2F^<2HPj2Ik1GpbBGaAIj1wBGaAIj1BbfCbq3q3BUxB&3CbB&3B&3BUxm3Cbm3m1GpbD;m1BbfD;m3
  Cbl3l1Gpbu1BbfCbu3u3n3Wx1wBSl1+cEsBSl2CY<2C])2DGb2C|$2IS,1J;w1EsGXsBXj2KBn2BXj2J~y2JJs2C_q2B^pGW
  g2C^j0+bGVnbFPy2Re2AAg2Xg2N=2JN(2A|:2ANv2C|(2CZy2AAh2Rf2P<2F(2Mr2Dx2A|c2C|u2]y2AI)2El2H)2E^&2GBx
  2F%1CY,w1JTpw1^&w1+cEs0+bAHebBP:Cs3Cx3C;3D=3Eo3|h3Ep3A$3Hf3Za3Fa0+fJqbA;aXjOn5EyiOn4i>*4k>*4XjNn
  5F<iNn5O*vj5iO*v5kO*v5O*vp4vj4XjEyiOngvj4i>*gvj4XjF<iNngvj5EyiOngkBh4i>*gkBh4XjF<iNngkBh5iFo5kFo
  1AHgaHQ>Fo4Fk3oAyp1bAHlA%1A~iO*v1HqO*v1bFdaC<cBp2ByaC<cBpp2G<avp4xAyp2Y:aoAyXbp1AdDv1+bAFnwj1HV(
  wj1+gcCpMmCZ%2BsMmF|j4F^y4JBc1SeJVr1N*A;G^n1ABrSe1AoSeA&Se1bJiacBpp4Foj2B>aoAyj2G<aoAyj2ImavpgxA
  yj2Hpavp2FmatAj2AiaxAyj2A%aoAypgFoj8vj2GjaKl2FkavXd2BY&A%2BsA;2MxaxAyp2IoaxAyp2YkaC<*2IfFk2MqaC<
  Bpj2F%axAyp2Gnavp2HpavpgE<Ayj2JiacAij2ZqacAij2J*acJ*j2GjacFdj2A%aoAypgcFdj2AItIm3Hp3Fd2ZqacBp2J*
  acBp2AWjacBp2AHhacBp2Y:acBp2KzaxAyj2AItHpaxAyj2B>axAyj6p2FmacJqbG<j2FNi1cVnA%2CpVnA%3A%AAvaoAyp3
  MmBZk3P:1C%O*vj4p1Wxp1C%Axp2O*vJ$Axp1cBsFk2CpMmC_b3Io3F%3Hp3FdaNn2BsFdaNn2CpMmC|v4C|a4C]y4IG(4H^
  j4JV)3BHaT(3fBZj1ETbGm&A|*1CaQgp1HjOn2Qg2Nn2Yh2^j2_j1Chsvj2oAyj2Klj2svp2oAyp2Klp1B;Yh2^j2_j1cCpF
  k1OnaBh3vj1Nnavp1kCwj1iCwj1kCwp1iCwp1tiCwj5av1iCwjav1Qgav1wSoFdACm0ALbfC<Gc2Gc2D<2Fr1bD;m2m2B&2u
  2Ck2l2Cv2DpAa3Ah2L(q2D;q2q2Cj2L(n2D;n2n2Cr2At2C=2Bq2Ef2Cs2C$2C*2Cx2Fp2C;2D=2Ez2D>2E,2Eo2Be2Di2Bi
  2Eb2A,2|h2Aw2Du2B$2Ep2A*2A:2A$2Jp2A)2Hf2Za2D$2Ct2Fa2Bd2Aq1BbfE=3BUq1fHz2Ld1BbfB&3u3Ck3l3Cv3DpAa4
  E>3L(q3D;q3q3Cj3L(n3D;n3n3Cr1fE*1BbfASkq3AI:1Nt1AU$fAH)3]w1C(Fb1BuFb1BbfL(Cbq3Iq3AWy1bJo2BMc2AMt
  2Ee2BDs2Sm2E%2AIk2DpE>3Fu1BbfDpAh4Fu1Gl1tGl1BgB(2s2o2x2(2:2Ae2Am2Af2Ar1J;f1fCpAUlv1bL(m2E=2BUq2A
  I:2Iq2AWy2GWcD>2I=2=A:2Ym2_h2G)Cu2ABi2Vg0DHlAI&1fGc2D<2Fr1+bbm2B&2u2Ck2l2Cv2DpAa3Ah2+cq2Cj2+cn2C
  r2At2C=2Bq2Ef2Cs2C$2C*2Cx2Fp2C;2D=2Ez2D>2E,2Eo2Be2Di2Bi2Eb2A,2+bAw2Du2B$2Ep2A*2A:2A$2+bA)2+dCt2F
  a2Bd2Aq1+cfHz2Ld1BbfB&3u3Ck3l3Cv3DpAa4E>3+cq3Cj3+cn3Cr1fE*1bGD(Be1+iCrMbw1+ebJp2Sm2+bAIk2DpE>3Fu
  1BbfDpAh4Fu1+cBgB(2s2o2x2(2:2Ae2Am2Af2Ar1bA$a>En4BlEn1Wlw2f1^iBTus3o3x3(3sGMg]cFjBD,2BD,Q&1BK,1F
  Jnw1b~$D<1J;f1~cw0+cFOefCYjA~<2A~<2Fr1+bbm2B&2u2Ck2l2Cv2+eEu2Cj2+cEd2Cr2At2C=2Bq2Ef2Cs2C$2C*2Cx2
  Fp2C;2D=2Ez2D>2E,2Eo2Be2Di2Bi2Eb2A,2+bAw2Du2B$2Ep2A*2A:2A$2+bA)2Hf2+bD$2Ct2+bBd2Aq1+cfHz1+bBbfB&
  3u3Ck3l3Cv3+eEu3Cj3+cEd3Cr1fE*2+dJMk1+hbBMc2AMt2Ee2Jp2+bE%1+hBgB(2s2o2x2(2:2Ae2Am2Af2Ar1JE%1CYk1
  F|c1JNu1YbHP<1fJ]y1J;f0+kFN:fGc2D<2Fr1+bbm2B&2u2Ck2l2Cv2DpAa3Ah1BbL(q1+bbq2Cj1BbL(n1+bbn2Cr2At2C
  =2Bq2Ef2Cs2C$2C*2Cx2Fp2C;2D=2Ez2D>2E,2Eo2Be2Di2Bi2Eb2A,2+bAw2Du2B$2Ep2A*2A:2A$2+bA)2Hf2+bD$2Ct2F
  a2Bd2Aq1+cfHz2Ld1BbfB&3u3Ck3l3Cv3DpAa4E>3L(q3+bq3Cj3L(n3+bn3Cr1fE*1+cNt1+pbDpE>3Fu1BbfDpAh4Fu1+c
  BgB(2s2o2x2(2:2Ae2Am2Af2Ar1J;f1Wlf1+hbI=1fWx2Z%2BP%2JDqHzj2AxHzj2CBfHzj0+bHQrfGc2D<2Fr1+bbm2B&2u
  2Ck2l2Cv2DpAa3Ah2+cq2Cj2+cn2Cr2At2C=2Bq2Ef2Cs2C$2C*2Cx2Fp2C;2D=2Ez2D>2E,2Eo2Be2Di2Bi2Eb2A,2+bAw2
  Du2B$2Ep2A*2A:2A$2+bA)2Hf2+bD$2Ct2Fa2Bd2Aq1+cfHz2Ld1BbfB&3u3Ck3l3Cv3DpAa4E>3+cq3Cj3+cn3Cr1fE*2+h
  Ud1CjMbw1CrMbw1+ebJp2Sm2+bAIk2DpE>3Fu1BbfDpAh4Fu1+cBgB(2s2o2x2(2:2Ae2Am2Af2Ar1BK,1bCy1JysF:3Ao2x
  Mh2sZ,3Hd2xAGy0+kW%fD<2Fr1+bbm2B&2u2Ck2l2Cv2+dq2Eu2Cj2+bn2Ed2Cr2At2+dCs2C$2+bCx2+bC;2D=2+dEo2Be2
  +dA,2|h2Aw2+dA*2A:2A$2Jp2A)2Hf2Za2D$2Ct2Fa2Bd2Aq1+eBbfB&3u3Ck3l3Cv3+dq3Eu3Cj3+bn3Ed3Cr1fE*1+cNt1
  +gCrMbw1+oBgB(2s2o2x2(2:2Ae2Am2Af2Ar1DbCc2sAp3A(1BDmf1APzf1CDof1EQrf1AKsf1Mrjf1Wlf1Dbf0+fJCbfFcG
  cj2Gc2D<2Fr2FcD<j1bm2B&2u2Ck2l2Cv2DpAa3Ah2+bq2Eu2Cj2+bn2Ed2Cr2At2C=2Bq2Ef2Cs2C$2C*2Cx2Fp2C;2D=2E
  z2D>2E,2Eo2Be2Di2Bi2Eb2A,2+bAw2Du2B$2Ep2A*2A:2A$2Jp2A)2Hf2Za2D$2Ct2Fa2Bd2Aq1+cfHz2Ld1BbfB&3u3Ck3
  l3Cv3DpAa4E>3+bq3Eu3Cj3+bn3Ed3Cr1fE*1+hMbw1CjMbw1+bbGt2Ni2IDd2+cBR,BWv2+cDpE>3Fu1BbfDpAh4Fu1+cBg
  B(2s2o2x2(2:2Ae2Am2Af2Ar1+hfWs1JyBgB(FfWdWi&(3sFfWdWi&(3oFfWdWi&(3xFfWdWi&(3sFfYfWi&(3oFfYfWi&(3
  xFfYfWi&(1fJJx0GCafAUlGc2Gc2D<2Fr2Ws1bm2B&2u2Ck2l2Cv2DpAa3Ah2+bq2Eu2Cj2+bn2Ed2Cr2At2C=2Bq2Ef2Cs2
  C$2C*2Cx2Fp2C;2D=2Ez2D>2E,2Eo2Be2Di2Bi2Eb2A,2+bAw2Du2B$2Ep2A*2A:2A$2Jp2A)2Hf2+bD$2Ct2Fa2Bd2Aq1+c
  fHz2Ld1BbfB&3u3Ck3l3Cv3DpAa4E>3+bq3Eu3Cj3+bn3Ed3Cr1fE*1+hMbw1CjMbw1+gbBR,BWv2E%2+bDpE>3Fu1BbfDpA
  h4Fu1+cBgB(2s2o2x2(2:2Ae2Am2Af2Ar1+bfY(2]i0+nBP:fFcD<j2Gc2D<2Fr1b~$D<2m2B&2u2Ck2l2Cv2DpAa3Ah2+bq
  2Eu2Cj2+bn2Ed2Cr2At2C=2Bq2Ef2Cs2C$2C*2Cx2Fp2C;2D=2Ez2D>2E,2Eo2Be2Di2Bi2Eb2A,2|h2Aw2Du2B$2Ep2A*2A
  :2A$2Jp2A)2Hf2Za2D$2Ct2Fa2Bd2Aq2CA(1fAdAjE*2^bE*2Ld1BbfB&3u3Ck3l3Cv3DpAa4E>3+bq3Eu3Cj3+bn3Ed3Cr1
  fE*1bvIAo1fBVa1+ebBB*A<3Bz3GN)1CrMbw1JysBUn3BHc2xBFw2sCA<3AVk2xCA=2sAL=1bJrCk2DpE>3Fu1BbfDpAh4Fu
  1+cBgB(2s2o2x2(2:2Ae2Am2Af2Ar1DbCc2sAp3A(1JysF:3Ao2xMh2sZ,3Hd2xAGy1BDlw1bBB*|g3Az3E>3Ah3Fu3Bn0+b
  B](fGc2C^t2JTg1+bbC~s2CV$2CY)2CYw2F|r2F^o2JOe2JOb2F|f2F|e2F^x2F^v2FBx2E~a2CZv2HRc2HQd2C~j2+dP;BL
  %2QuBL%2P;AMo2QuAMo2GCbBR)2AGhAMo2P;BBm2QuBBm2P;ANx2QuANx2B|sBR)3IHmHAh2AGhANx2P;CAy2QuCAy2P;AK,
  2QuAK,2AP,BSb2AGhAK,2P;B|)2QuB|)2P;AK*2QuAK*2AK(BSb2+bAGhAK*2P;BVh2QuBVh2P;AJh2QuAJh2GWv2C]qAJh2
  J^c2H~l2+bAK(BNo2+cJQ)2B|sATf2AP,ATf2AK(ATf2FQp2AP,BNo2FEj1+dfCZ&1+eBbfAIs3AN=A_o3X*A_o3AN=BK*3X
  *BK*3AN=BU%3+bX*BU%3+bBHt3AOh3X*AOh3GGlEQ)3AOhR(AIs5X*AIs5AMp3AMp1+gGNwBgB(3s3o3x3(3:3Ae3Am3Af3A
  r1+cBbfX*BHt4AMp1EsGHt0+mJC$RlHyY)2V(BL>3GEh3GEm3GEc3H|=2WcHEq2RnDOl3DPj3DOm2IdId2RnDPv2GbJ^;2Jk
  DOe2yHTw2Lw]c3HAr3HV$2E<AQj2JkEQ(2yJA,2LwJD$3JCz3B~m2E<Ga2OfDFn2KoAFi2PuHVz2PnE%2PuHVf2PnBGt2PuI
  Hc2IwA*2GbAXk2HrID$2Iy2J&BN:2H<2IhJVu2IdIG*3IEj3AU(2Hm^>2J&DP*2nN>2HmHH*2HR;2ATcm2NqFP(2ATcB&3P<
  3u3Ck3Iq3JMp3l3Cv2HVs1+e^i,DFm1RlATcq3F;3n3CjGVb4GVa2GK(2GVe2GVd2NqYb3Lw3JGz3DOq2JC)2HFq2J]%2FGd
  1BgB(2s2o2x2(2:2Ae2Am2Af2Ar1RlC]:2GEb0+>GK=bHy2V(Z>3+bW$2+bUfEf2Wc2Oj2UfC*2IdW$2+bUfFp2Si2UfC;3D
  =3Ez3D>3E,3Eo2Jk2y2LwZ>3W$2UfEb2E<2Of2Ko2PuZ>2PnW$2PuW$2PnZ>2UfEp2Iw2Gb2J&BN:3+bBOf2+bIh2IHkCt3F
  a2IdZ>2HmZ>2UfHf2n2HmW$1Th1Bbfm3NqY*3B&3P<3u3Ck3Bz3AXx3l3Cv1fUfE*1BbfNqBMp1IPsfJ&3Si1+cBbfq3Rr3n
  3Oa3Cj1+bHyA)1+bChNqYb3Lw3Kt3DM)1AA(w1HFk1+cBgB(2s2o2x2(2:2Ae2Am2Af2Ar1+cHmE<2Iw1bGD>Nk3Si0+,B~p
  LtNt1wAM&RbNrJH,m5CEzBYyA~rA*6AM&P%A*2;RbNrBQjA*2^dRbNrBZ<A*2QeRbNrBV*LrA*2RbNrP%LrA*2IH(Lr2DJ)R
  bNr2DIsB]jRbNr2F_(P%2ABlP%DJ*2Lr2AE%Lr2P%Lr2AE%P%Lr2IB:DO&IX>Lr2BYjBIsLr2QeAX(O,GoCbMu2AM&P%1GOc
  fDOdO,3GMpO,1A|wfIR(FJ,CEwO,3CExAw3IIjJIk1fAF$ALlBH)4BIn4AM%3AQaBH)4BIn3ALlAF$AQa1BgB(2s2o2x2(2:
  2Ae2Am2Af2Ar2Aos3o3x3(3:3Ae3Am3Af3Ar3B(1wDJ&O,2BSqBBcM*CEj2QeAX(O,AJzBQ)Mu2BSqBBcIR&O,2H*Nr2GtCE
  y2FN)O,BI>4BI=2N>GD)BI>4BI=1fCDkCAt2BP=CAt1bAt2C=2Bq2Ef2Cs2C$2C*2Cx2+bC;2D=2Ez2D>2E,2Eo2Be2Di2Bi
  2Eb2A,2Aw2Du2B$2Ep2A*2Gt2Ml2Ni2^p2Cy2I=2Ee2Xf2A:2A$2A)2Ct2Fa2Bd2Aq2m2_u2BG%A$2AOe2Jp1+eBbfB&3u3C
  k3l3Cv3DpAa4E>4Ah4Fu3q3Eu3n3Ed1fICfJhCsHr2BYyA~r1BbfCnu4Ck1fM*CEjZiBi2IWiGLq1wAM(2HSf1fGLnO,2PbO
  ,2BNpGtMu2AEbMu2FNxMuBYl3GXhBYl2C<AEbMu1Z;fBNpGtMu3AEbMu3C<AEbMu2bAt3C=3Bq3Ef3Cs3C$3C*3Cx3+bC;3D
  =3Ez3D>3E,3Eo3Be3Di3Bi3Eb3A,3Aw3Du3B$3Ep3A*3Gt3Ml3Ni3^p3Cy3I=3Ee3Xf3A:3A$3A)3Ct3Fa3Bd3Aq3m3_u3BG
  %Cy4A:4A$1+bJlIyC=4AJzBQ)Mu1DMkf=A~v3BaA~v3DMhJBu3IH)CEv1,E^fJv2BX:BYx2HR%FJ:2BX:BYxBYjBIs2BV*Aw
  2PtJv4AE%AIq4AM%AIq4AJzAIq1+bfAF$AQaAF$ALl4AM%1wDJ(B]jJbNrBYk2G]yRbJbNrBYk2AE%P%2;BA(BY$RbNrBQjA
  *2^dBA(BY$RbNrBZ<A*0AGaAHcf0AD(AHcf0AGaAHcfaAy0AD(AHcfaAy0B~pwGLsBQiO,2JGmBQiO,0+>AP=bAt2C=2Bq2E
  f2Cs2C$2C*2Cx2Fp2C;2HHy2D=2Ez2D>2E,2Eo2Be2Di2Bi2Eb2A,2Aw2Du2B$2Ep2A*2A:2A$2A)2Cy2Bd2Aq2Hf2m2Pxm2
  u2Ck2l2Cv2q2Waq2n2Cr1Bbf~lB&3B&3u3Ck3l3Cv3q3Cj3WaCk4n3qj1fD<2vp2Fr2E*2C|d1IjfB%A:4A$4Cy4Aq1bYpBd
  1BgB(2s2o2x2(2:2Ae2Am2Af2Ar1fDtIa2Ia1,GN>2DUv2CY;2FKj1bCt2Fa2DpAa3E>3Ah3Fu1BbfDpAa4E>4Ah4Fu1bWaC
  s3Fp3Vg3](1IjfWaB%A,5A*5A)1bAToSaCt1BbfAToSaRv1ChwAToSaFQj5JcPu1bAIaZsSaDi5|$1BbfAIaZsSaRv6Iq1fA
  IaZsSa~p5Q,5St5W;5Q:1bBFlZsSaEo5AXv5FL)1BbfFJ<Sau3BL$E=4l4Eu1bPxAt3C=3Bq3C$3Ee3C;3Bi3A,3Du3E%3B$
  3Di3Aq1IjfPxB%Cy1BbfPxB&4q5j4rBz1fPxQ,3St3Q:3AHr3EK;Q,4St4E~%Ch1bBZcARmE%1fBZcARmQ:1PxBgB(3s3o3x
  3(3:3Ae3Am3Af3Ar1f_o~p3St1BbfAIvm4Cj1,Pxs3Hl0^(ebF(3AAu3Vu3ABq3Ea3AH<3AAc3AHf3Dx3Y*3AD%3Je3_>3Dd
  3AE>3AIn3Zt3Zx3W&3U;3AFf3ADj3ACl3|%3Gs3AA=3Mu3_g3ABb3AA,3AIe3ADb3ACt3E&3^=3Hv3Yr3AC$3+b]r3+fXh1+
  cbF(2AAu2Vu2ABq2Ea2AH<2AAc2AHf2Dx2Y*2AD%2Je2_>2Dd2AE>2AIn2Zt2Zx2W&2U;2AFf2ADj2ACl2|%2Gs2AA=2Mu2_
  g2ABb2AA,2AIe2ADb2ACt2E&2^=2Hv2Yr2AC$2Pk2]r2BF$2CaVu2F%1|tIb0Gpb^(_>0^(bXh2Qpf2BM;f0R*BB;Tx2AG*2
  T;2U*2AG;2Ul2T)2Uj2AG,2Us2AG:2R;2Ro2AG)2S<2Tw2U%2Uh2Tp2BS,2AUp2AQs2HFg2B~s2BYq2B^<2AF:2BLx2APt2A
  N&2BV>2HWb2AR*2AFg2BWb2AR)2HWf2HWh2HWe2AR(2BV<2BWc2BWa2AN)2BLy2AT*2B];2AT:2B]<2B]:2AT,2IVf2IVg2I
  Va2AT)2B]*2IVc2B]=2IVe2B],2DPq2DPs2DN,2DN;2ARo2BKt2F^j2F^b2F^e2F^g2F^c2AUo2F]=2F]<2F^i2F^d2AXp2D
  Qn2DPp2DPr2DN*2DN:2DPd2DPc2DPo2DN)2BV(2AN(2B^;2AXo2GFu2AQr2AEs2AEt2B~u2Ry1BLnRy2m2F;2A:2~;2^s2q2
  AXn2Ly2n2Cy2AW)2E=2Gb2l2AW;2Hv2I;2Fn2Rv2Hb2u2CE)2CE*2J]f2CDe2FAh2FAi2FAg2J^j2J^k2HM%2HM$2HM:2HM&
  2HM)2CDv2CDw2J_k2J_j2CDu2JK%2JK&2JK(2JK,2JK*2J_)2J_:2J_,2CD%2CD$2J_<2CDz2FBc2FBa2J^%2FYw2FY)2FY%
  2FY(2FYz2FYx2A|l2C_f2C_h2C_g2IYh2CE(2J]g2J^l2HM*2HM,1BLlTx2AG*2AOd2T;2AEs2AEt2U*2Ul2AF;2AF<2AF=2
  AF>2AS)2AS(2AF:2T)2Uj2AFg2Us2AG:2R;2Ro2S<2Tw2U%2Uh2Tp2GFs2GFt2BS,2AQs2AQr2BS:2HFi2B~s2B~u2BYp2BY
  q2AS*2IBv2B^<2IBn2IBo2BYs2IBp2BYn2IBt2BYr2BYo2BYu2BQ&2GZ*2APt2APu2GZ:2BQ(2GZ$2GZ&2AN&2HWc2BWa2BV
  =2AN)2AT*2AT:2B]<2AT,2ARo2BKt2F^h2AUo2F^a2AXp2CDq2CDp2BV(2AN(2FSj2FSl2FSi2FSk2AXo2GFq2GFr2GFn2GF
  p2GFo2AUp0AB*LtAq2M(2G,2R(2ACy2E&2Hm2FVb2A)2H<2Kk2_w2AD&2Ma2J&2AO=2R,2FRw2FRu2BJr2FRt2FRs2FRv2BJ
  s2A*2Fg2Gy2APa2APo2Go2Iw2AEk2I|u2I|$2I|y2I|v2I|x2I|w2I|z2I|%2A$2Iy2Lp2|)2|*2Kp2Hr2BZd2Bd2Jh2I%2A
  Gg2Wn2Iz2Id2AU<2Ct2M:2Z(2BZ>2AGo2Fz2Py2AT$2Jo2|(2|&2ASr2H]$2AFs2AFt2H^o2H_f2+bBXu2H_g2BXt2BXs2+c
  H](2H]>2H];2H])2H]:2H],2H]<2+bH^a2+bH^e2H^b2H^d2H^c2+cB$2Jv2L%2AAq2Xn2L$2Of2BA=2D$2Xc2Sv2CB*2U=2
  Lx2Q=2JUe2Be2H&2Kt2Wy2]b2Fq2y2AWo2C$2AKu2ABa2AJ$2BBr2Rj2Oj2AKz2Mn2JZg2Mo2JYs2JYw2]o2CDa2JY>2JZk2
  +bJZo2JZl2JZn2JZm2+cA,2Ga2F,2Zi2AQi2Gq2E<2AEz2C;2AQ;2M*2BT*2BT,2AQ,2Si2HL)2G)m3l3u3B&3Eu3q3n3Cy2
  At2Jl2Jd2ADe2AN;2Jc2Hy2GGc2AOm2+bADw2ADu2BM(2ADv2+cAOn2GIm2GIk2GIh2GIj2GIi2GIl2+bGIn2+bGIr2GIo2G
  Iq2GIp2+cCy2P*2I;2~&2AH>2Hv2Ih2JXi2BV&m3l3u3B&3Eu3q3n2+bEe2Pd2Rd2CEb2AAb2I<2Pc2KB<2I=2AX&2AXz2KA
  l2AIo2Lz2AX%2KA;2A:2Fn2Hb2]p2]q2Ly2Gb2J_m2Bi2Le2Jx2BC;2X(2Is2Jk2E_b2D>2BDx2BDw2BDp2EP&2BDt2AK:2E
  Qo2Cx2V$2Tt2BK<2Y&2Os2Pp2BLo2Bq2Lh2Jb2^z2^%2Qo2Nk2FMx2BI,2+bBI<2FOm2BI;2BI:2+cYm2BIe2BIb2FKs2FKw
  2AMs2BIc2FLe2Di2AVs2W:2~m2~n2Fj2Lw2AVu2C*2AA>2H,2BBw2AA<2H*2Rn2DQc2Du2HVy2H$2BV%2HVm2AR$2Pu2HV%2
  Gt2AHz2W=2JIb2CAr2Na2AHy2JIo2JKn2JKv2JKr2JKo2JKq2JKp2JKt2JKu2E%2R$2Pk2AB<2Vo2Oo2Pn2BHp2Aw2Ny2Ew2
  AE<2Sk2Eh2Ko2|$2IEv2AP<2FHj1+cFc^&gBbMbw2BbMbw2^&w1Iaw1JXp1D,Cu1Dh1O:1Gd1HYoGd1G%w1|tIb1Bgs2o2x2
  (2:2Ae2Am2Af2Ar1DbCc2E)2I)2Kd2F)2K;2Fy2L*2Fh2Ap2CcA(1+dLtAGjAEk2AEl2BRx2AP;2AGjBA=2BBa2BA>2DKy2A
  GjBHp2BHs2BHr2FHh2AGj|$2AFq2BXc2ASq1AV;wJ^>3ERi3BYv3D;BYv3ESn3GDg3DPm3FSf3ERj3GH(0+gBB(bm2q2u2n2
  l2Bp2Bq2At2Qo2Jb2Nk2Lh2BI*2Aq2E&2G,2Hm2M(2AC(2A)2Ma2Kk2J&2H<2BOm2A*2Go2Gy2Iw2Fg2A,2AM>2AQb2Gq2F,
  2E<2Ga2AQ)2BXm2BXn2BXo2ASu2ASv2BXr2Bd2Ab2Iz2I%2Id2Jh2AU;2Bi2Be2Is2Fq2Jx2Kt2Jk2Le2BE<2ABp2AV%2AV&
  2AV)2AV*2AV,2B~*2Gt2Na2W=2AHy2AHz2CAv2Cy2Hv2I;2Ih2P*2CC>2A:2Ly2Hb2Gb2Fn2CD,2_;1+ccbLy3Hb3Gb3Fn3C
  D,3_;0+cAJ*AVaOr2q2A_e2u2Ck2n2Ed2PaEd2PfEu3u2m2B&2Hv2B)Hv2I;2B)I;2CC$2B)CC$2Ih2B)Ih2~:2B)~:2Qv~:
  2Cy2B)Cy2~&2B)~&2Qv~&2Cj2PaCi2G)Cu2rBu3C(3F<AoBh3EyAoBh3iAoBh3Bh3tBu4D;AdAU&3>v3D;Bc*3Ak3AnF$2Ea
  2Dx2Dd2F(2Eh2HRt2Ew2|w2Ko2|z2Pa|z2PfACy3G,2Aw2AE<2ASq2B)ASq2AFq2B)AFq2BXd2B)BXd2Zs2B)Zs2BXe2B)BX
  e2|$2B)|$2ASp2B)ASp2PaASp2B=2B)B=2PfBt2Fq2JAg2Kt2JEn2y2]f2Pa]f2PfX(3Jx2Be2Wy2~u2B)~u2CBd2B)CBd2C
  Be2B)CBe2o2B)o2CBh2B)CBh2AWo2B)AWo2AWp2B)AWp2QvAWp2Bo2~r2CA&2AWl2D=2Jc2GBs2Jd2GE,2Hy2_s2Pa_s2At2
  ADe2ADv2B)ADv2ADw2B)ADw2BM)2B)BM)2BM*2B)BM*2BM,2B)BM,2AOm2B)AOm2ADu2B)ADu2QvADu2Bn2AOl2IXaAN<3GE
  *3GGh3BLv2Rj2DLy2ABa2DQr2Oj2AKp2PaAKp2C$2AJ$2BC$2B)BC$2AK%2B)AK%2BC%2B)BC%2BC&2B)BC&2BC(2B)BC(2A
  Kz2B)AKz2AK$2B)AK$2QvAK$2B*2SnU$2Go2GUo2Gy2GZ=2Iw2AP$2PaAP$2A*2APa2AP;2B)AP;2AEl2B)AEl2BRy2B)BRy
  2BRz2B)BRz2BR$2B)BR$2AEk2B)AEk2AP:2B)AP:2QvAP:2A<2B)A<2GZl2A|yA<2SnA<2Gq2HAg2F,2BS;2E<2AQy2PaAQy
  2A,2Zi2BTz2B)BTz2AEz2B)AEz2AQ*2B)AQ*2QvAQ*2Az2PfK,2HE%2Ma2GJd2Kk2GM<2J&2Zb2PaZb2A)2_w2BOo2B)BOo2
  BOp2B)BOp2BOq2B)BOq2BOr2B)BOr2BOs2B)BOs2AO=2B)AO=2BOn2B)BOn2Ah2B)Ah2B%Ah2Iz2IGq2I%2~h2Id2~i2Pa~i
  2Bd2AGg2B_$2B)B_$2B_&2B)B_&2B_(2B)B_(2B_)2B)B_)2B_*2B)B_*2AU<2B)AU<2AU=2B)AU=2QvAU=2Ab2A|yAb2B_y
  2AJmAb2G^zIVu2QvIV$3IE&3IYa3I]&3IV%3IIh2Fz2Z(2AGr2Py2ATw2Ct2BZ>2Z)2B)Z)2B]s2B)B]s2B]t2B)B]t2B]u2
  B)B]u2B]v2B)B]v2AT$2B)AT$2B]r2B)B]r2Wo2Ly2J]i2Hb2J^:2Gb2AIi2PaAIi2A:2]p2CD:2B)CD:2CD;2B)CD;2CD<2
  B)CD<2CD=2B)CD=2CD>2B)CD>2AXv2B)AXv2AXw2B)AXw2QvAXw2Bz2DH&Bz2B)Bz2SnHb2Kp2BXvKp2B)Ma2H|w2Lp2AGd2
  Hr2BY,2B)J&2A$2|)2B)A)2BZe2B)BZe2Aa2B)Aa2B%Aa2Oo2FDt2Pk2FE;2Pn2AMg2E%2AB<2BHq2B)BHq2C&2Fj2AP>Fj2
  W:2AP>W:2AVm2AP>AVm2Lw2AVp2Di2~m2AVv2B)AVv2U$2CA$2CA%2AH$2Ez2JIs2JKf2JKg2JKh2JKd2HK$E&3G,3BJv3Hm
  3_a3Aq3R(3Bt2HK%Bt2FSw2H]r2|&2BXi2AFt2BXk2Jo2ASr2Dl2B~&2B~(2B~)2AV(2B)Kp3Lp3Hr3A$2HC>2AEr2HD<2Wc
  2HEm2Cs2AEq2K,2HHp2SnFz3Z(3Py3Ct2CC*Fj3W:3Lw3Di3U$2BN$2GMt2BN%2GMu2Tz2BNz2AO%2JCwFj3W:3AVm3Lw3AV
  p3Di3~m3U$2CZuCe2AJmq3u3n3m3Hv3I;3Ih3Cy3Gq3F,3E<3A,3Jc3Jd3Hy3At2SnE&3G,3Hm3Aq2PfFL(3BIj3Kf3FLq3F
  Lz3Ef3Iy3Hr3Kp3|*3Lp3A$3P*3Ih3Hv3AH>3I;3Cy3FXw3FXv3ANe3FXt3FXu3FXr3AVs3Lw3Fj3~n3W:3Di3JI)3AWl3~r
  3JIr3CA&3D=3Ny3Ko3Eh3Sk3Ew3Aw3B=3Lh3Nk3Qo3^%3Jb3Bq3GEg3V(3AN>3GD:3ADk3C=3GFz3GFy3GFv3GFw3GFx3AOe
  3ADm3Ga3E<3Gq3AQi3F,3A,3Fg3Iw3Go3APo3Gy3A*3Fn3Gb3Ly3]q3Hb3A:3V$2SnV$2PfPp3Os3Y&3Tt2SnTt2PfCx3BLh
  3BLg3F~o3F~p3BLe3_h3H<3J&3Ma3AD&3Kk3A)3ETz3ETy3ETt3ETu3ETx3ABp3GMv3BN%3GMr3GMs3BN$3Tz3JFb3B~)3B~
  &3JE>3B~(3AV(3AV,3AV*3AV&3JE=3AV)3AV%3Pd3Pc3I<3AAb3Rd3Ee3B:3;B:3BFf3BFe3Tg3BFa3BFc3Ni3Jh3Id3Iz3W
  n3I%3Bd3M:3Py3Fz3AGo3Z(3Ct3Wo3AHz3AHy3Na3CAr3W=3Gt3AA>3Rn3H*3AA<3H,3C*3JI&3JI%3JIy3JIz3JI$3JIx2H
  ,f2D,Cu2BXg2HDb2HHs2HHt2HHu2HHv2HHq2HHr2CC*JD)3JD*3JD,3JD:3JD;3AVu3AVv3rU$2AJmCi0HPvI(w1bDHh2GO;
  2FEm2IGv2HFw2JMh2EPe2JEz2DUi2DNy2G_x2FNb2HDi2IZ=2ID)2CZq2BUp2Xa2E|z2F_<2E|y2B<2JMx2F^m2E|$2HUi1A
  B=w1CnAB=w0+dID>bFEqFEtOoC&2Bp2JN$Xal2CDy2Bz2Ci2JD%JD&U(2Ti2C^mm2BUtn2AAdm2A_s2GOln2ITgn2n2E=2Dd
  2H|:BX$IAbAa2GCs2DN&2GCrBn2Bk2Om2FJ=FOuBk2He2JX;AIdCi2FPpBt2FPlBt2GOjBt2ITdBt2HA$HLfHAzAz2ITfAz2
  E]:2F|hYzF|lu2q2F|<Cq2FKm2GOiF;2ITbm2F|pFAj2HUzHUrB=2C]bFAk2IXcAb2IUzGOmAb2IThAb2B*2B:2JE:AV$JKm
  Bo2ITiBo2Bw2DHpDHnDIrCe2ITcCe2E];2HQi2E~eQjq2GVsJeA<2GOkA<2ITeA<2GLjGJsGOdAh2E],2F_l2ANn2EO;EO)B
  w2HQ$FA:n2X>2F_>2EL>2DL<2DNt2IZl2GOn2ITj2FZu2Dl2Cd1C)Es1NsEs1EjEs1C_t,1JJ$,1DHi,1bBn2Wo2Ed2FG%DM
  (BUt4Yz4Qj4AAd4A_s0+hJAobm2u2l2At2Bq2Cs2Be2Bi2A,2Aw2B$2A*2A:2A$2A)2Cy2Bd2Aq1Bbfu3l1fE*2BU<1+jbJr
  A$0FP=bm2u2l2At2Bq2Cs2Be2Bi2A,2Aw2B$2A*2A:2A$2A)2Cy2Bd2Aq1Bbfu3l1fBU<0HVqC)Es1tEs0+jDJ>bm2u2l2At
  2Bq2Cs2Be2Bi2A,2Aw2B$2A*2A:2A$2A)2Cy2Bd2Aq1Bbfu3l0+mJApbm2u2l2At2Bq2Cs2Be2Bi2A,2Aw2B$2A*2A:2+bA)
  2Cy2Bd1+bBbfu3l0+mBMebAt2C=2Hy2V(2Wc2C$2C*2Oj2Rn2Si2Bi2Ez2Jk2AH$2HHx2Be2Di2y2Lw2E<2B$2Du2Ko2Pu2I
  w2Gb2Hr2J&2Q=2Ct2AUr2Bd2Aq2A)2Jo1TrBbH]w3ASr3|&3BXi3|(3H^,3ASv3H_d3BZf3IE%3AO>3GPu3AFs3BXg3BXkAW
  rs5o3H]y1BbF_n]y3B&2fB&3u3Ck3Bz3AXx3l3Cv3]g3E=3A:3K&3q3F;3Cj3Ed3Cr1fHFp2H~u2J|m2G|m2JG,2DFz2ICr2
  JFn2GB)2CZm2IHeIHj2JTf2DUf2DGa2GD&2DF(2DMb|wGH;2BNt]f2DHr2HVtBRr2GGn1^i,IBj1fC~k2C|:1+cBgB(2s2o2
  x2(2:2Ae2Am2Af2Ar1+g,BNtC|*IW&4AP*4|w4AJi4AJx4ASe4ASh4ASi4ASf4ASg0+gBReQc1Th1Dh1D,Cu1Gd1(Ay1AV:M
  ;Or1B]xLtDJcT(1_$Dh2D,Cu1HFy1AMi~zATks4o4x1BbIb1AMi~zATk(1BgB(2s2o2x2(2:2Ae2Am2Af2Ar1+gbm2q2u2n2
  l2E=2Iq2Eu2A,2N>2B$2Aw2Jo2Bq2A*2A)2Bd2Ct2Be2Bi2C*2Cx2A:2A$2Cy2E%2At2C=2Gt2Ee2R(2KBy2Tz2AXz2H,2AV
  :CbBbf3q3u3n3l3E=3Iq3N>3B$3Aw3Jo3Bq3A*3Be3Bi3C*3Cx3Gt3A:3Cy3At3^z3R(3F~f3HFc3Ni2B]xq3u3ANw3Iq3l3
  N>3At3Bq3Aq3Aw3Ct3Be3Bi3Cx3E%3^z3R(3Gt3Ee3|)3C*3I=2_$u3At3A$3E%3I=2C*aoAy2+hVdVtD<s4Frs4EPi4CBo4
  C<CBo4A~g4xA~g4m4u4At4Cs4C$4D=4Ez4D>4Eo4Be4Bi4Aw4Du4Fa4I=4Ee4N=2AV:VdVtBe5I=2_$VdVtEf5Cs5C$5Fp5D
  =5E,5Be5Eb5Fa5BC*5I=5Ee2VdVtAol5A:2_$VdVtEp2VdVtEO:2_$VdVtTz0+fAJ*AVaARk2Oa2A_g2~(2HYg2HT*2H]c2J
  Bl2AN:2GIc2BQc2HIm2HA*2GLl2IXe2BZu2B]m2ISj2IUd2J_v2CDm2BX,2BT$2|mBT$2BT%2|mBT%2BT&2|mBT&2BT(2|mB
  T(2IEq2IEr2IEs2IEt2IEu2BZd2|mB=3Bo3Bn3B*3A<3Az3Ab3Wo2BFlCi2AIaCi2rcBh3Hqv2BXvIEp2B)Zb3_w2JD(2AVu
  2JIw2JIu2AWk2JFc2JFa2SnZ)3ATw3_a2PfFOn3BD*^%3^z3BI,2SnGAx2PfBLo2A~wBD*Ah4Aa2PfAK=Ab0+kGNdJT)b1bA
  t2C=2Bq2Ef2Cs2C$2C*2Cx2Fp2CDh2Be2Di2Bi2Eb2A,2Aw2Du2B$2Ep2A*2A:2A$2A)2Cy2Ct2Fa2Bd2Aq2FOr2AV>1+bBb
  fm3u3l3Eu3Cj3Ed3Cr3q3n1Z;bA:3A$3Cy1+ecbAt3Cs3D<3Be3A,3Aw3A*3A$3A)1fG_$2GDf2IGo2+eZb1+dHlw1G%w1Bg
  B(2s2o2x2(2:2Ae2Am2Af2Ar0SrMabAt3Mn3Cs3Gt3Bd3A:3Be3Di3A)3Aw3Du3A*3E%3D$3Aq3Jo3C=3Ml3A,3m3u3Eu3Qj
  3l3Ed3n3Iq3q3A|$3Cj3+cQ,3St3W;3Q:3AHr0+l|cSrBOkbCpJo4BsJo4CpAt5Mn5Cs4BsAt5Mn5Cs4CpGt5Bd5A:4BsGt5
  Bd5A:4CpBe5Di5A,4BsBe5Di5A,4CpAw5Du5A*4BsAw5Du5A*4CpE%5D$5A)4BsE%5D$5A)4CpAq5Bi5B$4BsAq5Bi5B$4Cp
  BM&5CDb4BsBM&5CDb4CpAU(4BsAU(3+eBbfBbITl5B&5Ck5l5Cv5q5F;5n5|j5Iq5Oa5A_g5CB)5ARk5BUb5JMt5ANw3brBp
  5K,5Az5A<5Bn5Bw5Ce3Ch_&4_(3+gBgB(4s4o4x4(4:4Ae4Am4Af4Ar3AHkBgs3+dfBM=4GJr0BMe,HTy2AP*L=2|wL=2AJi
  L=2AJxL=2ASeL=2AShL=2ASiL=2ASfL=2ASgL=2AK)L=2BDdL=2BDeL=2BDbL=2BDcL=2BDfL=2JJv2AP*Mi2|wMi2AJiMi2
  AJxMi2ASeMi2AShMi2ASiMi2ASfMi2ASgMi2AK)Mi2BDdMi2BDeMi2BDbMi2BDcMi2BDfMi0DJ=bAt2Bq2Cs2BSy2Aw2B$2A
  *2BRp2Be2Bi2A,2AQz2C$2Cx2C;2HLe2A:2A$2A)2D$2Bd2m2Aq1Bbfu3l3q3n3F;1+cHSc1Gm&Ia0SrAHkbCpAt4C=4AOn3
  BsAt4AOn4C=3Cs3CpC$4C*3BsC$4Bd4C*3C;3H~g3CpASy3Bi3BsASy3BX*3CpBe4Di3BsBe4Di3A,3B$3CpAw4Du4E%3BsA
  w4E%4Du3A*3BsA:3CpA:3A$3ID&3A)3BOk3Cy3CpCt4Fa4Bd4Aq3Hf3m3BsAq3u3Ck3l3Cv3Eu3Ed3BM=3YpBd2IjfB%A$5A
  )4A)JA(ADy2fNqADgADy2IjfrCs4BsAw4CpASyB<BsAw4A*4B$4Bd2+bfIG&2Bbfm4NqATd4B&4~lB&4u4Ck4Iq4AWy4l4Cv
  4n4|jp4ARk4q4F;4Ed4Cj4AHkCj4|jj2fNqADg3~p3Q,3GEkSt4W;4Q:3A$FPi3NqATb3GElGCg2+cFcRqv2FVoBgB(4s4o4
  x4(4:4Ae4Am4Af4Ar2+gAHkBgB(4s4o4x4(4:4Ae4Am4Af4Ar2+gfJW%3JW&3IHz3GDh3FW)3ET;3CnDeBX*3NqJ]&3GBt3G
  Bu3IHr3IHs3FP;3DLz0+cFcABrCfFb1ESe1Yx1Bjh1Ekv1JYfp1]nC:p1B;wp1tB;wp1BaAA**p1B_jAA**p1ARsj1tARsj1
  ARsp2In1D:cbCip4CaCip1kEvjk1iEvji1kEvpk1iEvpi1AvDJkj1Dbfj1C<tA|mj1Akfj1tAkfj4p1EkBuFb1D:cbKhBk5A
  a5Bo0+AlDFqfCBsIBh3L(2DNu2B_v2DIi1bCZw3O;2F^p3O;2JM*3O;2A$AF)4O;2A)BNu4O;2E~k2CZp2HPy3O;2At3T%2B
  q3FM<2Cs2C$3GJm2Cx3F|;2C;2BeGLf3PsT%2BiPsC]k4T%2A,H|>2Be3JBi2Bi3GUt2A,2Aw3GCc2B$3GDe2A*2A:2A$2A)
  2Cy2BdIGs3IHn32Aq1fIAr1BbfO;3CBs4BZs3B_r4F^u3A$AF)5O;3A)BNu5O;3B|v4AF)4O;4AF)O;3BVs4O;1AAfAAf1bG
  nUn2GEeUn2JKsUn2QiUn2LxUn2AIlUn2C|tUn2JrBLk1+dBgB(2s2o2x2(2:2Ae2Am2Af2Ar1BU>1BU:1CC&1DMuHSl2IU%2
  HTd1HSh1Oy,BEt3ERa3BE;3AK&4B_v3ES(3EO*3ERq3EPd3AK&FJ>3FcJB,4E~,4BL)4BL(4ANy4BL)aANy4BL(aANy4DHk4
  FM*3IBzB;X=5ABg4FsCA*5JAt3GLxB;HSr5HZt4FsHW(5HXc4B;AR,1BU>BNi1BU:BNi0+bB_sfHS*2HSv2HSy1bm2u2l2F;
  2n2q2Rv2At2Jo2Bq2Cs2C$2Cx2Ee2C;2Be2Bi2A,2Aw2E%2D$2B$2A*2A:2A$2A)2Cy2Bd2Mn2Aq1IjfHSj3HS(3HS,1BbfH
  Ss3HS:3HSm3HSz3HSi3HSq1fHSg2E*1IjfHTkA*4Cy1bC=2I_n1BgB(2s2o2x2(2:2Ae2Am2Af2Ar1Ld1bIA&2BNx2Ep2rBn
  3A<0DF>bm2Pzm2Aq2PzAq2APeAq2B$2AN*B$2Aw2PzAw2A,2APeA,2Cy2PzCy2BU*Cy2Bq2PzBq2Cx2Bi2A$2PzA$2A*2PzA
  *2B^uBe2BTiBe2Bd2PzBd2APeBd2A:2PzA:2Cs2A)2PzA)2C;2C$2Zl2_)2u2l1fJFt1Bbfq3BU*q3Eu3u3AN*u3n3AN*n3l
  4FfPzBd1IjfK,3Bt1BU=1HS$1+i,AJlA,GX=3HWn3GAi3BU=0GMfbAt2GF%2C=2Bq2FMo2Cs2C$2C*2Cx2C;2Be2Di2Bi2A,
  2Aw2AFi2Du2E%2FFr2B$2DIt2A*2BQ<2Gt2Ml2Ni2A:2A$2A)2Aq2BJ%2D$2Bd2Ct2Cy2m1Z;bA:3A$1BbfB&3u3n3Ed3l3C
  v3q1IjfBn3A<3Ah3Az3B=3Aa3Bo3HLn3ADg1fH~a2Hz1+dEsB|r2AQ:JD<B|r2BBu2JIjBBu31BgB(2s2o2x2(2:2Ae2Am2A
  f2Ar1+dbD=2Ez2D>0BUhDPeBgB(3s3o3x3(3:3Ae3Am3Af3Ar2bA)3H)3AAg3N>3Rf3_w3CVt3CVs3CVu3CVz3Kk3Yz3ANi3
  F_:3AC;3H<3AH(3J:3CBy3CB)3Ma3AB(3E|*3Ea3AB)3J&3HQ)3HO=3BUw3|k2FgJI*2FJdCA)2G_sCA)2IAe2HVa2CZg2Es
  BRs3tBRs0MwcbQyLx3GOoIs3Zkn3~)Pj3~lFq3JDtFq3~lQpf4Sx3JM>]h0+h^(G_nebF(4AAu4Vu4ABq4Ea4AH<4AAc4AHf
  4Dx4Y*4AD%4Je4_>4Dd4AE>4AIn4Zt4Zx4W&4U;4AFf4ADj4ACl4|%4Gs4AA=4Mu4_g4ABb4AA,4AIe4ADb4ACt4E&4^=4Hv
  4Yr4AC$4Pk4]r4BF$4CaVu4F%4+cXh4Qpf4BM;f0B_sEsAJlI^;3HSw3HZ&3BBe3BNxAGi3AtAGi3BiAGi3B$AGi0+i~$ChG
  Cl2ISc2HYp1fHFn2AXjBQ$Q(1ChAXjCZcTrQ(3TrQ(3AN,TrQ(2L(p2AXjAN,TrQ(IH>2tQ(2EkQ(2AN,]w2vp2oAyp2xAyp
  2IB)BLzTrQ(2C|wTrQ(1fFrQ(3AH)2CnFrAH)2Fr]w2CnFr]w2FrAH)aDv3]waDv2D<A_=3DFl3JQq4aDv2JE*2FRqCbD<2C
  bD<2IDtCbD<2D<JMiG_y2A|n2DeA|n1ChL(j1fY(2]i2C|y1ChBhj2tBhj1ftD<A_=0+fD:bcem4F;1cbCaF;1bceQaCe4B*
  4Bw4Ti4q1cbCaB;q4u1bceCq4Bn4Aha*4A<4CnAz4n4B;n1cbSon4B;n4na*3CaE=1bceUc1cbEyAon3F<Aon1bceB=4CnAa
  4CaAa4Bo4l1cbSol4ESfl4CaA<1bceBp4Ci4B:4Rx2Q>GLcIXx2F%0HxbceIu4M)4Ew4Hh4K:0MwbceIt0Gpbem3F;3Ce3Qa
  Ce3Bw3q3Cnq3Bk3Bt3u3Cq3Bn3Ah3A<3Az3CnAz3n3Uc3B=3Aa3Bo3l3Ci2cm3Cam3F&3CaF;3Ce3Bw3q3Q$3B;q3CaB;q3B
  k3Cau3Bn3A<3Om3n3B;n3EyAon3F<Aon3B=3Bo3l3Sol3CaA<3Bp3F%3Ju3HxIu3Jj3HxH$3H,0D:Wwcbu4Aa4l4Bp0HxWwc
  bJu4Iu4Hh4H$4H,0D:cbIq3Cea>Bf3Bwa>Bf3C&a>Bf3A<a>Bf3Aza>Bf3B=a>Bf3Aaa>Bf5Vpg>Bf3Aba>Bf3Boa>Bf3B:a
  >Bf3CaBk0GpbMwEa0D:cbKhBk3U$aI]l2ebua*2bGia*3B=a*2ebla*2bG=a*3CeaG$)3BwaG$)3C&aG$)3BkaG$)3BnaG$)
  3AhaG$)3A<aG$)3AzaG$)3B=aG$)3AaaG$)3AbaG$)3KcaG$)3BpaG$)3CdaG$)3B:aG$)3maEx)3F&aEx)3Bwa)gDv3qaEx
  )3B;qaEx)3CnB;qaEx)3Q$aEx)3uaEx)3B;naEx)3KcaEx)3laEx)3RxaEx)0GpbcCaF&3B*4aIr3Ti3CnB;q3C&3M$Cqa*3
  H>Bk3CaBt3ua*3Gi3eu5a*3CqaRp3AhaEx)5G$)3eAh3A<a)3CaA<aCbK*3Azak)5Ex)3eAz3Qan3H$3Aba)3Kc3BoaG$)3l
  Aj3G=3el3Bpa)3CaBp3B:4aEx)5Ir3Rx3H%0FcFeC(Fb2BuFb1AGzp1AU:w1GUq1FNq1GUs1CYi1FNp1CYh1D:cbAap1DJt1
  GUr1tCfj1Mej1Vbp1Yzp1Xaj1AH:j1D:cbACbB;mj4F;4AAk4Xk4B*Gv4KhBw4Ti4Bk2bceBk2cbBn4Ah2bceAh5A<2cbAz2
  bceAz5Aa2cbAa~b4Ab4CbAb4B:4F&4Ce4Ju4Q$4C&4Ahat>Bf4naBaAA**4B=4Kc4laBaAA**4Ci4maCo4naCo4laCo1AcF$
  j1Y,ji3k1vjk1~)C<Xsp1vpk1EQ*w1tC<Drp1LaA=yp1kCwj1iCwgAnCwp0D:ebmaBhp1cbmaBhp1ebCeavj1cbCeavj1ebC
  eavp1cbCeavp1ebCeaC:p1cbCeaC:p1ebB*aGvgBu1cbB*aGvgBu1ebBwavj1cbBwavj1ebBwavp1cbBwavp1ebBwaC:p1cb
  BwaC:p1ebBwaGv1cbBwaGv1ebBwaCfp1cbBwaCfp1ebqaC>gC(1cbqaC>gC(1ebqaC>gBu1cbqaC>gBu1ebqaCfp1cbqaCfp
  1ebqaBfp1cbqaBfp1ebqaGvgDr1cbqaGvgDr1ebC&avj1cbC&avj1ebBkaC>1cbBkaC>1ebBtavj1cbBtavj1ebBtavp1cbB
  tavp1ebBtaCo1cbBtaCo1ebBtaGv1cbBtaGv1ebBtaDrp1cbBtaDrp1ebuaBfp1cbuaBfp1ebuaCogBu1cbuaCogBu1ebBna
  Bu1cbBnaBu1ebBnavp1cbBnavp1ebBnaC:p1cbBnaC:p1ebAhavp1cbAhavp1ebAhavpgC>1cbAhavpgC>1ebAhaC:p1cbAh
  aC:p1ebAhaCfp1cbAhaCfp1ebA<aBu1cbA<aBu1ebA<avj1cbA<avj1ebA<avp1cbA<avp1ebAzavj1cbAzavj1ebAzavp1c
  bAzavp1ebAzaC:p1cbAzaC:p1ebAzaCfp1cbAzaCfp1ebnaBfgBu1cbnaBfgBu1ebnaBfgCo1cbnaBfgCo1ebnaC>gC(1cbn
  aC>gC(1ebnaC>gBu1cbnaC>gBu1ebB=aBu1cbB=aBu1ebB=avj1cbB=avj1ebAaavj1cbAaavj1ebAaavp1cbAaavp1ebAaa
  vpgC>1cbAaavpgC>1ebAaaC:p1cbAaaC:p1ebAbavj1cbAbavj1ebAbavp1cbAbavp1ebAbaBugvj1cbAbaBugvj1ebAbaEm
  gvj1cbAbaEmgvj1ebAbavpgvj1cbAbavpgvj1ebBoavj1cbBoavj1ebBoavp1cbBoavp1ebBoaC:p1cbBoaC:p1ebBoaCfp1
  cbBoaCfp1eblaCop1cblaCop1eblaBfp1cblaBfp1eblaCfp1cblaCfp1eblaBfgBu1cblaBfgBu1eblaC>gCo1cblaC>gCo
  1ebBpaBf1cbBpaBf1ebBpavp1cbBpavp1ebCiaC(1cbCiaC(1ebCiaBu1cbCiaBu1ebCiaCo1cbCiaCo1ebCiavj1cbCiavj
  1ebCiavp1cbCiavp1ebCdavj1cbCdavj1ebCdaCo1cbCdaCo1ebBzavj1cbBzavj1ebB:aCf1cbB:aCf1ebB:avp1cbB:avp
  1ebB:aC:p1cbB:aC:p3BtaC:p3BoaCo3CiaBhj3BzaBhj3maiAoBh3CbAbavj6En*6Cp*1ebZ&Ab1cbJj1ebmavp1cbmavp1
  ebma)j1cbma)j1ebmaCfgBu1cbmaCfgBu1ebmaCfgC(1cbmaCfgC(1ebmaCfg)j1cbmaCfg)j1ebmaCfgBf1cbmaCfgBf1eb
  maCfgvp1cbmaCfgvp1ebmaDrgBu1cbmaDrgBu1ebmaDrgC(1cbmaDrgC(1ebmaDrg)j1cbmaDrg)j1ebmaDrgBf1cbmaDrgB
  f1ebmaDrgvp1cbmaDrgvp1ebqavp1cbqavp1ebqa)j1cbqa)j1ebqaBf1cbqaBf1ebqaCfgBu1cbqaCfgBu1ebqaCfgC(1cb
  qaCfgC(1ebqaCfg)j1cbqaCfg)j1ebqaCfgBf1cbqaCfgBf1ebqaCfgvp1cbqaCfgvp1ebua)j1cbua)j1ebuavp1cbuavp1
  ebnavp1cbnavp1ebna)j1cbna)j1ebnaCfgBu1cbnaCfgBu1ebnaCfgC(1cbnaCfgC(1ebnaCfg)j1cbnaCfg)j1ebnaCfgB
  f1cbnaCfgBf1ebnaCfgvp1cbnaCfgvp1ebnaFxgBu1cbnaFxgBu1ebnaFxgC(1cbnaFxgC(1ebnaFxg)j1cbnaFxg)j1ebna
  FxgBf1cbnaFxgBf1ebnaFxgvp1cbnaFxgvp1eblavp1cblavp1ebla)j1cbla)j1eblaFxgBu1cblaFxgBu1eblaFxgC(1cb
  laFxgC(1eblaFxg)j1cblaFxg)j1eblaFxgBf1cblaFxgBf1eblaFxgvp1cblaFxgvp1ebBzaC(1cbBzaC(1ebBzavp1cbBz
  avp1ebBza)j1cbBza)j1ebBzaBf1cbBzaBf1ebAEeFu1cbAEeFu1ebAEeBp1cbAEeBp1ebBzaKl1cbBzaKl0HxcbF&aCm5Cl
  5CmgDg5ClgDg5CmgDf5ClgDf5CmgEr5ClgEr1ebF&aCm5Cl5CmgDg5ClgDg5CmgDf5ClgDf5CmgEr5ClgEr1cbHkaCm5Cl5C
  mgDg5ClgDg5CmgDf5ClgDf1+cebHkaCm5Cl5CmgDg5ClgDg5CmgDf5ClgDf1+ccbI>aCm5Cl5CmgDg5ClgDg5CmgDf5ClgDf
  5CmgEr5ClgEr1ebI>aCm5Cl5CmgDg5ClgDg5CmgDf5ClgDf5CmgEr5ClgEr1cbGiaCm5Cl5CmgDg5ClgDg5CmgDf5ClgDf5C
  mgEr5ClgEr1ebGiaCm5Cl5CmgDg5ClgDg5CmgDf5ClgDf5CmgEr5ClgEr1cbKnaCm5Cl5CmgDg5ClgDg5CmgDf5ClgDf1+ce
  bKnaCm5Cl5CmgDg5ClgDg5CmgDf5ClgDf1+ccbG=aCm5Cl5CmgDg5ClgDg5CmgDf5ClgDf5CmgEr5ClgEr1+bebG=aCl6+bg
  Dg7+bDf7+bEr1cbFiaCm5Cl5CmgDg5ClgDg5CmgDf5ClgDf5CmgEr5ClgEr1ebFiaCm5Cl5CmgDg5ClgDg5CmgDf5ClgDf5C
  mgEr5ClgEr1cbF&aDg5Df3HkaDg5Df3I>aDg5Df3GiaDg5Df3KnaDg5Df3G=aDg5Df3FiaDg5Df3+cF&aCmgFl5ClgFl5Cmg
  DggFl5ClgDggFl5CmgDfgFl5ClgDfgFl5CmgErgFl5ClgErgFl1ebF&aCmgG;5ClgG;5CmgDggG;5ClgDggG;5CmgDfgG;5C
  lgDfgG;5CmgErgG;5ClgErgG;1cbI>aCmgFl5ClgFl5CmgDggFl5ClgDggFl5CmgDfgFl5ClgDfgFl5CmgErgFl5ClgErgFl
  1ebI>aCmgG;5ClgG;5CmgDggG;5ClgDggG;5CmgDfgG;5ClgDfgG;5CmgErgG;5ClgErgG;1cbFiaCmgFl5ClgFl5CmgDggF
  l5ClgDggFl5CmgDfgFl5ClgDfgFl5CmgErgFl5ClgErgFl1ebFiaCmgG;5ClgG;5CmgDggG;5ClgDggG;5CmgDfgG;5ClgDf
  gG;5CmgErgG;5ClgErgG;1cbF&a]l5C>5DggFl5Fl5DfgFl5+bEr6gFl1ebF&a]l5C>5Dg5Df5G;1AOj1G;1Cm1Er1MygEr1
  cbI>aDggFl5Fl5DfgFl5+bEr6gFl1ebHkaDg5Df3I>aDg5Df5G;1CmgDg3Df3Er1cbGia]l5C>5MygDg7Df5+cEr5MygEr1e
  bGia]l5C>5Dg5Df1+bClgDg3Df3Er1cbG=a]l5C>5MygDg7Df3HhaCm5Cl3G=aEr5MygEr1ebG=a]l5C>5Dg5Df3HhaCl1My
  gDg3Df1Dg1+ccbFiaDggFl5Fl5DfgFl5+bEr6gFl1ebKnaDg5Df3FiaDg5Df5G;1Df1Cl0+bEaM,0KbM,0EaI(0KbI(0JDvI
  (0FGuI(0IVoI(0AB>I(0EsI(0AHlI(0VvI(0B(~*I(2HH=2Vz0_xw0AGcw0Or0HH<Or0AB>E$0EaE$0KbE$0BcAj0tAdC:1B
  sC:0kC)Grw0iC)Grw0C)BOgGrw1BJuGrw0ktGrw0itGrw0tBOgGrw1BJuGrw0X&0tX&0Mt0I*Mt0svAOu0ovAOu0BcTh0BKj
  Nv0C:Ib0|tIb0_xBF&0AGcBF&0ASaBEjFGn0_xBUy0AGcBUy0ZkAQxI(0ARxBQ,f1CcA(f0O(0tO(0EkO(0CnO(1tO(1EkO(
  0Qe0C)JmD&Grw1H=D&Grw0H~)w0tHlw0_e0Ud0CBv0Rl]e0QeANpNv0C|p0OrMt0JyLs0kAvAsaAFu0iAvAsaAFu0tG%w0G%
  Hlw0HlG%w0B~xfNj0CnBWdf0zAlMt1<Mt0BsEi0CnO:0AKcAc0oC|oC]dXb0^eKmf0I_kE$0C<CBv0^xEsw0xvEs0PvO(0(v
  Es0:vEs0ovEs0(vw0FeEj0CAj0Ad(Ay0BxZdI(0MmVz0BHmC^(0F_,Ag1Ib1Ak0+b_xAC<0AGcAC<0RzB_jAC<0ASaBEjAC<
  0BKzB|oB_z0A_kB|oB_z0BKzJqdB]c0A_kJqdB]c0BR>BgB]b0HH,BgB]b0N*B(1D:cbu1+c(1:1Ae1Am1Af1Ar1Akf1Km1F
  tf1kEv1iEv1D:cbAz0WwB(1s1o1x1(1:1Ae1Am1Af1Ar1Akf1Km1Ftf1kEv1iEv0+bD:Wwcbm4q4n4Cd4Q$4Bt4Bn4Ah4A<4
  Az4B=4Ab4Bo0+dFBef0Gdf0ELsf0BHhFG$f0BN=f0G]gf0HAmf0HU%f0Wlf0AXbf0|cISqf0BEtf0BGkf0BMgf0JJdf0ALof
  0FKnHUnf0BVzf0FN$f0C~ff0FW:f0DNvf0GNyJGdf0IXsf0JCff0F_gWlf0JJqBN=f0HIdwf0GVmf0ID%f0GLbf0DInf0B^r
  f0+pFckDsj1iDsj1CbAdC:In1D;AdC:In1J=hj1Nfhj1khj1ihj1BhIn1NfBhIn1J=BhIn1xAyj1(Ayj1BF,Ax2Av2E;2AxV
  e1kihj1BF,~d2BL;2CB$DaBm1JgIeIn1tAd*In1C^k,1EkJNc1~)Xsj1AlhIn1CbtIeIn1<DsaBrBj1AlDsaBrBj1khp1ihp
  1Eij0+pA_i&0CYmyFjI^g0PieB*0ABjDN$0DqC:,0DMs&0DL)JM:0FBdBCl0IIg0ABjFD)0H>cBk1eBt0])eBt0PieBt0HW)
  BCl2A&oEw0H>eu0])eu0H>eAh1cAh0AhCeAj,0PieAz0HKzf0K=H~%BCo0H>eB=0PieB=2Dl0H>eAa0])eAa0PieAa0HYqJA
  u0BYh0IP(w0O<f0JGkwf0JRb0PieB:0BUvf0AE(f0C<AE(f0])eB:0CaHxcbGi0GDdf0C]<f0H>eCe0])eB*0FA),0H>cq1e
  q2C&0CaeC&0H>eA<1cn0A;,0Xp,0Lf,0ABh,0ANmAUk0DeeDl0FD&f0PicEw2Iu1eIu2Ew1ZhAG>0CaIpeBk3Ah0CnIpeAh0
  CaIpeBz0PiPoeBw2cBw3q3u3Cq0HY;C:0CaS$0ARxf0CZz0CacC&0,FfBZoAUk0AW&JysIP=3HFv3AVk3N,2oSs2sAL=2oAL
  >2xAL>2(AL>2sAT;2:B]>2sHd2xL)2:L)2AmL)0JyBTus0|<Qxs2o2x2(2:2Ae2Am2Af2Ar2Cc2Ol2Nb2F)2sAp2:Ap2sA(0
  c|<Qxs3o3x3(3:3Ae3Am3Af3Ar3Cc3Ol3Nb3F)3sAp3:Ap3sA(0|<QxsA(B*Bw2:A(2CcA(2CnsAp0D:cbCnB*0|<QxAeGLe
  d2F)E|%d3A(2sApA(0AW&JyB(Ss0CaBgo2x0+eAlh0Bvh0<h0Bjh0kih0AcAnh0EcD%h1Dch0EtDch1D%h0Alha*0<ha*0Al
  I:h0<I:h0AloACwh0BvoACwh0<oACwh0BjoACwh0AlhaDv0<haDv0AlhGfAj0BvhGfAj0<hGfAj0BjhGfAj0AcAnhaAAx0Al
  ha)0<ha)0AlhaKl0<haKl0kiI:h2ha*0BjVbh0BvhaM>Al4<0BjhaM>Al4<0<haF>Bj0BjhaF>Al0J=Ey~eh0NfEy~eh0EcD
  %hyCbAj0AlhyAjA&<hyAj0J=B;Axh0NfB;Axh0AlDsaBrBv4Bj0BvDsaBr<4Al0<DsaBrBv4Bj0BjDsaBr<4Al0<hA&Alh0B
  vhAl&Bjh0AlhA&<h1UeLc0BvUeLc0<UeLc0BjUeLc0AlDsA&<Ds0<DsA&AlDs0Altha*0kitha*0<tha*0Alth0Bvth0<th0
  Bjth0kith0AcAnth0EcD%th1Dcth0EtDcth1D%th0AlEkh0<Ekh0AlAG&h0<AG&h0Bvhat*0Bjhat*0AlNhh0BvNhh0<Nhh0
  BjNhh0AlhyAj0<hyAj0Al%h0Bv%h0<%h0Bj%h0Bv%hGfAj3DdBVl5aBcAj6AdAj2th4DdBVl0<%hGfP(0EcD%hyF>0EtDchy
  F>0AcAn%h0ihacAx0BjhAl&Bvh0x<Lc0AlhaAd*0<haAd*0kihaAd*0AlhatAd*0<hatAd*0kihatAd*0AlARbh0<ARbh0ki
  ARbh0Ff]v0DUu0ZpX)0JC;FBq1QhDkFBp0VlZ$0F_f0Zj0Qk&0DkF(Qk&0cQk&0S>MrAEd0QhDkAKmMrAEd0cS>MrAEd0Gm&
  HY:0ZhNx1BCn1AG>0Kmf0G]of0vAk0TcLs0Z$Km0EiEq0BhEq0MtEq0Av|=0AKv|=0ACh|=0HY<y0Yx0iD&0D&0_*D&0B^$D
  &0ETm0QhDkALh0Ugy0DkUgy0Nog1B<0K(0K>0J%0tJ%0EkJ%0AKnJ%0B_wJ%0JTxJ%0NfJ%1AKnJ%0J=AKnJ%0JC<0DHa0H~
  h0BW<0vKm0FBk0FKlBW<0BJ;0BfEq0CnBf0C<AOtAb0IU:I:0JXzNx0DkBf0KmBf0A|xA=y0DkA|xA=y0]xA=y1QdDkA_lA=
  y0|a]xPtA_lA=y0LaA=y0DkLaA=y0LaA=B<A=y0EkBf0]vA=y0L,y0BH:L,y0ESoKx0C^*FjGNf0BH:A=y0]xA=yB<FjR=&0
  R=&B<]xA=y0GdFt0FtGd0BhDxA=y1A=y0EK*y0FA*0FApy0DoFt0JjA=y0A=yOgEQ%0_*Og0H^yA=y0DkA=y0AC,y0DkAC,y
  0I]iL,y0DjB<A=y0DnB<A=y0DjA&A=y0DnA&A=y0DjQdDkA=y0DnQdDkA=y0AP&Dj1Dn0Kx0DkL,y1Dj1Dn0|aDjPtA=y1Dn
  PtA=y0DjB<L,y0DnB<L,y0|aDjPtL,y1DnPtL,y0DjB<Dn0DnB<Dj0|aDjPtDn1DnPtDj0Nw0N)0NwB<A=y0N)B<A=y0NwB<
  L,y0N)B<L,y0QhDkBWz2B_n0Hu&0Ig&0DkmHu&2Ig&0Hu&B<A=y0Ig&B<A=y0|amHu&PtA=y2Ig&PtA=y0Hu&aDkA=y0Ig&a
  DkA=y0G_)1Pr1K>0AvR=&1|p&1R=&B<A=y1|p&B<A=y1AA)1^h0DwAk1Km1Ag1TcLs1vEq1BhEq1EiEq1Ft1E$0FwAk1Km1A
  g1vEq0iF$0kF$0AnF$0AcF$0C|m0G];0AWe0FGj0EkAdAjiU:0tAdAjtiU:0QhDkHZa0DkAWe0QhDkFGi0BSitAdAjtiU:0N
  wSuAF&0N)SuAF&0QwUv&0S>MrQwUv0QwUv&B<A=y0S>MrQwUvB<A=y0|p&0R=&0AP)0FRmEKeGWo0F_y0JZc0HAp0Pt0iD&a
  Lb1Bm0ZhNog2B<1K(1K>0E;Eq0vEq0DoEq0TcAg0AJp0kQwAL,~fNx0iQwAL,~fNx0k~fNx0i~fNx0CnBfFt0HjNoB<2g0tH
  u1Ig1K(1K>0BWl0A=gUgy0Djav0Dnav0G>AP&Dj2Dn0DjA=yB<Dn0DnA=yB<Dj0A=yB<Dj3Dn3Nw3N)0QhDkBWzB<A=2B_nB
  <A=0DkAvR=&B<A=y2|p&B<A=y0AvR=&B<DkA=y1|p&B<DkA=y0DjQdDkL,y0DnQdDkL,y0NwQdDkL,y0N)QdDkL,y0DkQwUv
  &0QhDkAKmMrQwUv0DkQwUv&B<A=y0QhDkAKmMrQwUvB<A=0AdTh0BQ$BcTh0AciEnTh0AniEnTh0Qk&aCbBc*3AdAjH)Gm&B
  c*0cQk&aAdAjH)Gm&Bc*0Qk&avj3Nu0cQk&aNu0Qk&aH(3oBcAU&0S>aCbBc*2AdAjH)Gm&Bc*0cS>aAdAjH)Gm&Bc*0S>aN
  u0cS>aNu0B:UaAArGXu0ESgf0ABzh0_c0AcCw0AnCw0HY*0HUy0RaC:0kRk0iRk0kQn0iQn0F<iABd1kABd0EyiABd1kABd0
  CnDkf0AvNp0Lb0ATi0IIs0O<H~$0AFkTs0JS*Av0Wg&F_zf0CaDkf0CCo0AC%0EykF>1iF>0F<kF>1iF>0EyAoJ%0F<AoJ%0
  BHj0AUe0AcCwKxoBcAAw0HQmSb0BGdyFji0CdDxmWkHc0_n0JmD&As0H=D&As0BGdyFjk0A~&Bh0EMd0]vC_x0I|e0B~<IEb
  0ESwHQq0EKdJA;0IWa0EK<0EK=0A|eBHn,FYy3IYeM,3M,A=4ALh4E;4Tu4Ax3AxZ:4Tu3LsAj3VeAj3M,Ls4Ve4Dj4Dn3Al
  AH;3<AH;3M,Alh4<h3AxVe3AnF$H(3JjZ:3M,AnQe4Jj3AnF$Tu3BvAH;3M,Bvh3AcF$Nu3ABkZ:3M,AcQe4ABk3AcF$Tu3B
  jAH;3M,Bjh3BXqH(3JjH(3E;H(3TuH(3AxH(3AcWqTu3BXqM,3AxDo3M,Gd3AcF$Co3ABkCo3DoCo3TuCo3AxCo3AnWqZ:3k
  WqZ:3BfCo3DnCo3DhAj3ABkBf3KBj3Z:Bf3O:H(3M,DkA=4G%3AnQeBf3AcQeBf3Gi3Hh3Fi3F&H(3HkH(3GiH(3FiH(3F&0
  DkOiw0iD&aBjVbh0ITpB;Hc0Xo,0AdC:a>v0ANp,0EKlCBu,0ES=CBu,0BF*,0AKj,0%AvaDqAdC:0BF=,0AIySb,0FRf,0D
  wBcAjaBTj1BmAn0XtAxaHIfh0JNd,0G^u,0FYj,0HQfFOy,1GI$,0HTr,0HTs,0ALgAKw,do0IWz,0A|eBHn,M,0AK;IbSb,
  0HYuSj0HC<Sj0BW)~d,0DQ<~d,0kEvB,)2Tk2Bl)0iEvB,)2Tk2Bl)0kAvAsB,F>3Tk3BlF>0iAvAsB,F>3Tk3BlF>0kHjAs
  B,)3>Ui3Bl)0HjAsTk0iHjAsB,)3>Ui3Bl)0J%Tk0BcC:Tk0B,kB<BliHjAsIa1iB<BlkHjAsIa0AG>Ey1F<0EyAvAs0F<Av
  As3A&EyAvAs0AFv,F<0kAdHcC:0iAdHcC:0BcIH,GNk2GNl2GNm2GNn0ERc,BaAdgEyi5F<i4aAx3AngBcaAx3AcgBcaAx3A
  daBm3AngBcaBm3AcgBcaBm3AdgI:3AngBcaI:3AcgBcaI:3AngBc3AcgBc3AdgEyk5F<k0AvACf0AF*,0E~i,0AdC:Tk0GYc
  Dr1CbA&D;1D;A&Cb1CbA&oATy1oATyA&Cb3_i1CAl1B~e1BVq0M%BIw0FHe0EyEv0F<Ev0EyHjAs0F<HjAs0EyKuIcAs0F<K
  uIcAs0%JGs0A~&BhaAx0IZ>0FF$0AAdAKw0E~pK(0AK;FBs,0zH=tBm1JmtBm1NctBm1OktBm1H=tBmaAdAj1JmtBmaAdAj1
  H=BmatAdAj0CZ*ABc0IZ:0JEuABc0AC%aFF,IHg0zBxJmBm2H=Bm2NcBm2OkBm0tAdAj0zAvFfCu1AxFfBX<0ASd,1HP%,1D
  d,1IV*,0HPgRw,0,FfBTt2AG<&FQ(4Uz2Gm&Uz4CAd2FAa2A_j2Xo2DE>2BcB|t2C:AL;2AdB|t2dAL;2DMxAF*2ISzMf3Dx
  2EPsBN;BGf2ERsAKos4o4x4(2McA_j2I|hF],2Gm&CAdDm2BBg2Gm&Bx2B_m2BGf2^vIb2BIxIb2BX<Ib2AH,Ib2I(2BD(0B
  Af,0B;Hc0,FfBSo2BD(do2B_mdo0+zHPl)1BBx1ACg1C<ACg1PeDJ:1Xr]e1AJqAJfBKo1C]u&Oi1E$1EL;A_iDb1tVe0+vD
  wBgs2o2x2(2:2Ae2Am2Af2Ar1DbCc2Ol2Nb2U&2Tm2Pl2Q&2Up2Rs2T<2E)0AFaBgs2o2x2(2:2Ae2Am2Af2Ar1DbCc2Ol2N
  b2U&2Tm2Pl2Q&2Up2Rs2T<2E)0BgsD,Cu1oD,Cu1xD,Cu1(D,Cu1:D,Cu1AeD,Cu1AmD,Cu1AfD,Cu1ArD,Cu0DbCcD,Cu1O
  lD,Cu1NbD,Cu1U&D,Cu1TmD,Cu1PlD,Cu1Q&D,Cu1UpD,Cu1RsD,Cu1T<D,Cu1E)D,Cu0AFaD:cbm4Ce4B*4Bw4q4C&4Bk4B
  t4u4Cq4Bn4Ah4A<4Az4n4B=4Dl4Aa4Ab4Bo4l4Bp4Ci4Cd4Bz4B:0DwD:ebm4Ce4B*4Bw4q4C&4Bk4Bt4u4Cq4Bn4Ah4A<4A
  z4n4B=4Dl4Aa4Ab4Bo4l4Bp4Ci4Cd4Bz4B:2cbm4Ce4B*4Bw4q4C&4Bk4Bt4u4Cq4Bn4Ah4A<4Az4n4B=4Dl4Aa4Ab4Bo4l4
  Bp4Ci4Cd4Bz4B:1BgB(0McDwDbOl3Nb3U&3Tm3Pl3Q&3Up3Rs3T<3E)0tDwBgs3o3x3(3:3Ae3Am3Af3Ar2DbCc0McDwBgB(
  0HcBE%BaBc2=Bc2BaAd2=Ad2BaEkE$Bc2=EkE$Bc2BaEkE$Ad2=EkE$Ad2BaPvE$Bc2=PvE$Bc2BaPvE$Ad2=PvE$Ad2BaAn
  gi2AnBagi=3=giBa2=Angi2BaAngk2AnBagk=3=gkBa2=Angk2BaAcgi2AcBagi=3=giBa2=Acgi2BaAcgk2AcBagk=3=gkB
  a2=Acgk2BaAdgi2AdBagi=2Ac=giAnBa2An=giAcBa2Ad=giBa2AnBagiAc=2AcBagiAn=2=Adgi2BaAdgk2AdBagk=2Ac=g
  kAnBa2An=gkAcBa2Ad=gkBa2AnBagkAc=2AcBagkAn=2=Adgk2BaAngBc2k=giAnBa2i=gkAnBa2AnBagBc=3=gBcBa2iBag
  kAn=2kBagiAn=2=AngBc2BaAcgBc2k=giAcBa2i=gkAcBa2AcBagBc=3=gBcBa2iBagkAc=2kBagiAc=2=AcgBc2BaAdgBc2
  k=giAdBa2i=gkAdBa2AdBagBc=2Ac=gAnBcBa2An=gAcBcBa2Ad=gBcBa2kAc=giAnBa2iAc=gkAnBa2kAn=giAcBa2iAn=g
  kAcBa2AnBagAcBc=2AcBagAnBc=2iBagkAd=2kBagiAd=2=AdgBc2BatE$Bc2=tE$Bc2BatE$Ad2=tE$Ad2tBc3Ad2AnC)gi
  t3tgiC)2tAngi2AnC)gkt3tgkC)2tAngk2AcC)git3tgiC)2tAcgi2AcC)gkt3tgkC)2tAcgk2AdC)git3tgiC)2tAdgi2Ad
  C)gkt3tgkC)2tAdgk2AnC)gBct3tgBcC)2tAngBc2AcC)gBct3tgBcC)2tAcgBc2AdC)gBct3tgBcC)2tAdgBc2BaLbAngi6
  k4Acgk6i3EnB,iyBlk5kyBli4Ej3k3Ac3i3An2=k3Ac3i3An2Bakg=i3Acg=An2=kgBai3AcgBaAn0B,AoDm0BlsHdDm2F:D
  m1xL)Dm1AoDm1:L)Dm1xMhDm1AmL)Dm0D,Dm0kAmL)Dm1xMhDm1:L)Dm1AoDm1xL)Dm1sF:Dm2HdDm0iAoDm0BaMk0BxMk0B
  DiMk0B,sHdDm0isHdDm0MgBlk2i1B,k3gBlkgBli5i4B,igBlk8i2i3gBlk6gBli0zAv0%Av2aQyXz2VizcAv0AvaBcM&2Ad
  M&2HQvBCuM&2B,kyBliM&3iyBlkM&2EnBCuM&0zcAv0%cAv0zWk0%Wk0zAdWk0%AdWk0zBVb0%BVb0zNcBm0%NcBm0zNccBm
  0%NccBm0zH=Bm0%H=Bm0zH=cBm0%H=cBm0zH=|x0%H=|x0zOkBm0%OkBm0zOkcBm0%OkcBm0zJmBm0%JmBm0zJmcBm0%JmcB
  m0zJm|x0%Jm|x0zE;0%E;2VizcE;0FFi0Np0%Ax0FeAx0AxaAdM&0DKe0zAx0AxakAoz2iAoz2BlAoz2B,Aoz3iMgz2]vQdB
  ,kMgz0kAozAx0iAozAx0QqMt1%Ax0B,AoQq%Ax0BlAoQq%Ax0B,kMg^bLb1iMg^bLb0BliMg^bLb1kMg^bLb0B,AoAx0BlAo
  Ax0zBliBm2kBm1B,kBm2iBm0%Mt0AvakAoz2iAoz2B,kEnAoz2BliEnAoz0%AvaAdDIjC:1NcBmav0NcBmakAoz3iAoz0C%A
  x0%AvaB,kMg3BlkMg4iMg3B,iMg1AxaB,kMg3BlkMg4iMg3B,iMg0B,kBm1iBm0BlkBm0%BxAv0zBxAv0%BxcAv0zBxcAv0B
  liBm0zP$aZu0Xw0~x0AUh0DUp0zDo0%Do0AD*0JDz0P$0A|sBTh0ALaBTh0EKf0ARc0zO<0%O<0VfHc2aOi3Cd0Pw0~xaWjE
  ^j0_bA~)0%AGtUi0zAGtUi0IR>0CnDeAMcGwMt0zkDaA>1iDaA>0%kDaA>1AcDaA>1iDaA>1AnDaA>0AUagBCt0DM;f0H|zf
  0DIef0BBd0C^h0HQuEj0H,Hh0Ej&GOt2F|=0DogX$0Vn,0CYoIR;0ACugIUs0ARw,0SyPb0JG*FfACx2BNc2Pm2AVt2P)2N;
  2T*2M%0AIb&ER&0%ACiAu1K<Au0zK<Au0%P$aZu0RzF:Ho0AOsF:Ho0BQq0Yif0M%0T&f0GAt0IHt0CB%0BSk0BWr0C_p0JB
  g0FKe0DMd0GMc0JTe0GMz0IIc0IGt0DMo0C^=0HWx0%F=Kj2Lo2O)2Oe2G:2O%0zF=Kj2Lo2O)2Oe2G:2O%1B^vSq0%GwSq1
  E;Sq0zAKfSq0%B^vSq0zGwSq1E;Sq0%AKfSq0_bIX<0F:Jn0HdJn0A~tHd|i1Z,|i0BRuYjf1BSaf1Z&f0D%AHeEj0DcAHeE
  j0CBwASz,0ASz,FfJKiWh3JKkWh3CBiWh3CBjWh3CBkWh3CBlWh3JKlWh3FKgGWn0zCBwASz,0H~(AE=,0HTiAE=,0HUvAE=
  f0AW=,0ALdFDv1FDw1FDx1FDy1FDz1FD$0%Axavi3oAy0zAxa%vi3o%Ay0ZgFfPb2Sy0BEeFfBIuPb2GMhSy3Pb2BIuSy0%O
  p0zOp0ACugBV:0A_,0NgI_j0Ut&CY(0IH*0A_x0^x0BH*0Ut&FRl0C|&,0FF%0Wf%Do0xBN,EKqi3k0JV,f0CpJTwf0ABrYi
  f1T&f0F_%YigT&f0T&gYif1a*f3gT&gYif0AdT&a*f0BcT&a*f0Bx%Ax1zAx1c%Ax0GV=,0ETo,0JNlBVe,0DUg0FHaJNy0H
  C,0DOa0HSb0GAn0JSp0DPn0zHoGM>0IRz0IPr0H^&0IP)0IWvOd0DF:0FwSb0%BE$Je2Kj0zBE$Je2Kj0AUh~,AUf0P$A~%X
  w0Wj0zAUh0AVtXwgWj0Ca%AGtUi1zAGtUi0%E;DxAv0GeBNh0ES<S:0HQj0BV:0S:IV=0ACza%Ej0DwGeBNh0DOf0E<ALy0I
  iHP,k~(~q0zCBgk~(~q0%CBgk~(~q0zkBNgBQr0%kBNgBQr0BE)B^hf0=%OkBm0kFsALy0FwPw0VmEnDx%AxDxzAv0zAWd0I
  AxkFAd2FAe0C|s,FfCB%0=Axa*goAyj0AFd0IB$BK(AFd0GLyBK(AFd0C<AFd0zEjDdATt0IS(ITv0BB=0AJ,0FSuIVm0BH*
  ~,FXc1aFP,0_%,FfGM;0T*0~xDdBIw0BHd0OpDxBJ,0FEv0IGw0Av(Xz0IVw0TqB^e0LnaOd0AVj0VyAJf,0BJjFNr,0FG;H
  Zr0^hDdzAv0%OpaBc>zI]m0zATaZz0B,BAeZz0zZz0BlBAeZz0%Zz1=Oiw0O<AO*f0B|%BE)0Vc0Rt0HqAMa1Gg0CB>Gg0CC
  <Gg0BliAFc0AFc0B,iAFc0%BS*0zBS*0Oiw0=Oiw0PrCd0=PrCd0VfCd0=VfCd0WfHxEj0=HxEj0B;DqEj0=B;DqEj0D:Ej0
  N&%D:Ej0WfD:Ej0GVjEj0Do&EPt0(W(Ei1AJdEi0=(AJdEi0(DRlEi0z(FvDo0%(FvDo0IXk0AU$Wf%Do0Dw%Do0B;DqzDo0
  zDq%Do0WfzDo0=WfzDo0SlDo0N&%Do0=Ei0B;DqEi0AfKrEi1FvzDo2SlDo0AeFvzDo0AfFvBX>zDo0=AfFvBX>zDo0NbFvz
  Do0Q&FvEi0W(Ei0B;DqW(Ei0=W(Ei0AeBV$zg%ACd0zACd0%ACd0AfBV$WfzACd0DwB;DqAfFvDo0=W(SlEi0AUg0AVwJG&A
  Ug0=BB)AUg0B^w0=B^w0AJdEi0AfW(BW;Ei0=AfW(BW;Ei0Ejw0N&%Ax0McFwEjw0BliBE*%Av0B,iBE*%Av0BliN&%Av0B,
  iN&%Av0zG%wD*0%G%wD*1HlwD*0zE;Km%Cd0=Hlw,0BaAdAj0BxAdAj0=AdAj1C)CaDhGrwD*2DhGrwD*1tCaDhGrwD*2DhG
  rwD*1BsC)DhGrwD*2tDhGrwD*0PhSp|tfD*0=HlwD*1GwHlwD*1zGw0De=zGwMt0AMcGw0DeAMcGwMt0BxkEvD*1iEvD*1AC
  bkEvD*2iEvD*1JmD&AsD*1H=D&AsD*0=JmD&GrwD*1H=D&GrwD*1JmD&AsD*1H=D&AsD*0BakKuIcAsD*1iKuIcAsD*0BxkH
  jAsD*1iHjAsD*0BEhMcDwBgs4o4x4(4:4Ae4Am4Af4Ar3DbCc1DwIpBgs4o4x4(4:4Ae4Am4Af4Ar3DbCc1McDwIpBgs5o5x
  5(5:5Ae5Am5Af5Ar4DbCc0=CCz<h1Akf1Kmf1Tcf1EtDch1<h1EcDch0E^dNv<h0=IC*<h0Cz<h0=Cz<h0NhCz<h0=NhCz<h
  0z<h0B~nAV=<Cw1DJa<Cw0z<Cw0=zPhBjg<h3Bvg<h0B^)z<h0=EJ;z<h0AS,%<h0AOx%<h0AI>N&%<h0AMlN&%<h0=BlAGb
  %<h1B,AGb%<h0SgBlAGb%<h0HjKl0SgB,AGb%<h0Dw=%<h0JWv<h0BAcEtDch1<h1EcDch0=BAcEtDch2<h2EcDch0JB$<h0
  =JB%<h0CCv<h0=CCv<h0HQh<h0tHjKl0xESxD&0%BmVic%Bm0ARy0B;Hu1Ig0kBZgAArABl0iBZgAArABl0B<avJ$0JgIeBW
  $Hu0IgBW$Ie0AdAjaBc*0ZdN%En0CbTc0ZdVmEn0FwNog2B<0%E;aS;v0gav0Qk&|oBv0BliF>av0B,kF>av0kARfADc0iAR
  fADc0D,ARfADc0C%AcF$1AnF$0kgitU:3F$1AP)0CbiF$1kF$0AcF$aAxj0NpALiOgBcID:0%EJ<E;3aAlQ*4<Q*1AvaAlQ*
  3<Q*0Zdk%AvAs1i%AvAs1kD&As1iD&As1ktD&As1itD&As1k%KuIcAs1i%KuIcAs1kACbEv1iACbEv0BvPvh0BjPvh0J=BHw
  Axh0NfBHwAxh0ihaDwAk0CbAlh1<h1kih1Alth1<th1kith1AlhGfAj1<hGfAj1AlthGfAj1<thGfAj2AG&h0DJmBVfBAf2E
  Uf2EXt2EUg2EZh2EV,2EXu2EUh2E]b2EW$2EYo2EVb2EZi2EV:2EXv2EUi2E]r2EXe2EY)2EVr2EZy2EWl2EX>2EUy2E]c2E
  W%2EYp2EVc2EZj2EV;2EXw2EUj2E]z2EXm2EZa2EVz2EZ,2EWt2EYh2EU,2E]k2EW<2EYx2EVk2EZr2EWe2EX)2EUr2E]s2E
  Xf2EY*2EVs2EZz2EWm2EYa2EUz2E]d2EW&2EYq2EVd2EZk2EV<2EXx2EUk2E](2EXq2EZe2EV(2EZ=2EWx2EYl2EU=2E]o2E
  Xb2EY%2EVo2EZv2EWi2EX;2EUv2E]w2EXj2EY<2EVw2EZ(2EWq2EYe2EU(2E]h2EW,2EYu2EVh2EZo2EWb2EX%2EUo2E]$2E
  Xn2EZb2EV$2EZ:2EWu2EYi2EU:2E]l2EW=2EYy2EVl2EZs2EWf2EX*2EUs2E]t2EXg2EY,2EVt2EZ$2EWn2EYb2EU$2E]e2E
  W(2EYr2EVe2EZl2EV=2EXy2EUl2E]*2EXs2EZg2EV*2E]a2EWz2EYn2EVa2E]q2EXd2EY(2EVq2EZx2EWk2EX=2EUx2E]y2E
  Xl2EY>2EVy2EZ*2EWs2EYg2EU*2E]j2EW;2EYw2EVj2EZq2EWd2EX(2EUq2E]&2EXp2EZd2EV&2EZ<2EWw2EYk2EU<2E]n2E
  Xa2EY$2EVn2EZu2EWh2EX:2EUu2E]v2EXi2EY;2EVv2EZ&2EWp2EYd2EU&2E]g2EW*2EYt2EVg2EZn2EWa2EX$2EUn2E])2E
  Xr2EZf2EV)2EZ>2EWy2EYm2EU>2E]p2EXc2EY&2EVp2EZw2EWj2EX<2EUw2E]x2EXk2EY=2EVx2EZ)2EWr2EYf2EU)2E]i2E
  W:2EYv2EVi2EZp2EWc2EX&2EUp2E]%2EXo2EZc2EV%2EZ;2EWv2EYj2EU;2E]m2EW>2EYz2EVm2EZt2EWg2EX,2EUt2E]u2E
  Xh2EY:2EVu2EZ%2EWo2EYc2EU%2E]f2EW)2EYs2EVf2EZm2EV>2EXz2EUm0<P&haAd*4tAd*0AlthaAd*0<thaAd*0kithaA
  d*0<P&hGfAj0AlthGfAj0<thGfAj0BjhaBc*0BvhaBc*1Ekh0BjEkh0AltE$h0<tE$h0AlEkE$h0<EkE$h1P&EkE$h1haFeS
  p0BvhyAj0BjhyAj0<haDvaAd*5tAd*1P&haDv5aAd*6tAd*0AlAAn0<AAn0AltAAn0<tAAn0AlhyzE;0<hyzE;0AlhGfAjyz
  E;0<hGfAjyzE;0EcD%gEtDch1DcgEtD%h1D%ha)1Dcha)0EtDcha)1D%ha)0EcD%hgEcDch1DchgEtDch0EtDchgEtD%h1D%
  hgEcD%h0N%EnGeVmEn0VmEnGeN%En0EtDchGeEcDch0EcDchGeEtDch0VmEnGeEcDch0N%EnGeEtDch0EcDchGeEcD%h1D%h
  GeEcDch0I:hDaBEki0hDa<W,AKxBv5Bj2BjW,AKxAl5<0IB&LbNfh0GL$LbJ=h0EyLbJ=h0F<LbJ=h0EyLbNfhaKm2J=haAk
  0BliATmNfh1kATmJ=h0J=FsAxh0NfFsAxh0<hjD;Alh0AlhjD;<h0D;<hjAlh0<haAkp0AlhaAkp0<hM=Cd0kihM=cAx0BvP
  &hGfcAx0kBrAciBrAnDs2AniBrAcDs0AcBriAnBrkDs2kAnBriDs0kBrAciBrAcDs0AcBriAnBriDs0kBrAniBrAnDs0AcBr
  kAnBrkDs0AlDsaBrAcyAj0<DsaBrAcyAj0BvDsaBriyAj0BjDsaBriyAj0AlDsaBrAnyAj0<DsaBrAnyAj0BvDsaBrkyAj0B
  jDsaBrkyAj0AlDsaBrAcGfAj0<DsaBrAcGfAj0BvDsaBriGfAj0BjDsaBriGfAj0AlDsaBrAnGfAj0<DsaBrAnGfAj0BvDsa
  BrkGfAj0BjDsaBrkGfAj0AlDsaBrAcjAlDsaBrAn0BvDsaBrkQbBvDsaBri0<DsaBrAcj<DsaBrAn0BjDsaBrkQbBjDsaBri
  0AlDsaBrAcj<DsaBrAc4Anj<DsaBrAn0<DsaBrAcjAlDsaBrAc4AnjAlDsaBrAn0AlDsaBrAcjCbE$4AnpCbE$0<DsaBrAcj
  CbE$4AnpCbE$0BvDsaBrkQbBjDsaBri0BjDsaBrkQbBvDsaBri0ithaQyJz0Ftfj<h0BfEqj<h0AlhjBfEq0<hjBfEq3LaA=
  y0DjjAlh0AlhM=Dj0Dnj<h0Huj<h0AlhM=Hu0IgjAlh0kQlDv0iQlDv0AcQlDv0AnQlDv0EkAdAjABl0B:UaIX*2AWrGd0k%
  HjAs0i%HjAs0k%Ev0i%Ev0B:UakR=As2iR=As2kA~=As2iA~=As0kAvAsaH(0iAvAsaH(0kAvAsaQ*DxEyF>0iAvAsaQ*DxF
  <F>0kAvAsaQ*DxF<F>0iAvAsaQ*DxEyF>0kD&Asav0iD&Asav0kLbDjAs0iLbDnAs0tkLbDnAs1iLbDjAs0kzKuIcAs0izKu
  IcAs0Fe^u0AdVbC:0_*D&|ok0iD&I,aAv0_*iD&av0D&aAbJ$0BuD&0B^$D&|ok3Ac0CaD&0CnD&0D&aH(0CnD&aH(0MdD&|
  oAc3An0_*D&aB;]zE~:DxhDaAcgi9Acgk9Angi9Angk9igAc9kgAc9igAn9kgAn0CnVlZ$0VlZ$aNu3cAxj3ihj3khj0AxaB
  cAj0DwAdAj1Ug1JgIe1ARy0AxALiOgBcAjgEyAoALiOgAdAj1aI^&Cd0DwC^oTcf0AchM=Ax0Dw%Mt1Mt1Dj1Dn0AxacAxyF
  ji2oBcAU&yFji0FwN%EnLs1VmEnLs1Ei1cAx1Av0o_iAG%0Bmavj2H(0AbDxBm0BmaAGlH)F<0iBmjkBm0kBmQbAdAj0AdAj
  QbiBm0AJpakAoz2iAoz0zAJp0AgakAoz2iAoz0%AC%0zAC%0k]n^u0i]n^u0kt]n^u0it]n^u0F_dYx0]eA&Yx0YxBSiaAdA
  j0E]<AP)0AvaEKmHQ<0F_eMr0IT(Nx0FtfgI&Ug5aBfj0AC,ygI&Ug0FMqIZp0JC=0OkBmakAoz3iAoz0zE;aAnh1Np0%Axa
  Anh0zAxaAnh0FAt%Av1zAv1%E;1zE;1%Ax1zAx0ID;0JgIeEq0IeaNu0JgIeaBc*0MsIe1JgIe0tAk0EkAk0JmPhD&As0H=P
  hD&As0~o0G]p0ZhDwvEq2AkEq2AgEq1K>Eqav4Ak1AvK(Eq2K>Eq0oNogEq2B<Eq0ZhAgEq0G^loZ=0AG>aJ%0PvJ%Eq0FFc
  ARtJ%0J%at*1C~laLs0DQvBHm0J=BK%0C:BK%aBX=ARvAI*|y3ATmARvAI*|y2DkF_bFj|y0J%AI*mNvEq0H^vJ%Eq0J%aAl
  ha)2Agf2K(2K>2Nu2H(0ADc0C%kBmEq0B:UaIH<AKj3HWt3HY)0AkfacAxj3CfFbj3Bfj3vp3Bfp3Wwo3zBm0KmfaDhj3vp3
  VmAy3N%Ay0AkfDxkAoAx3iAoAx0JQ,B<EjNx0Prfavj3H(0~fNxaF<Fs0B^kNx0PrfDxkAoAx3iAoAx0DwPrfaCfFb0PrfDx
  tAx0DwTcf0AkfDxBm0KmfDxBm0PrfDxBm0BK&Nx0IB(BK&Nx0B:UaIAfAKj0C]pB<BCn0K(av0K>aKmf2Nu0K(aNu2Nog0K>
  aNoB<1jK(0K(jK>0K>jAjjK(0K(jAjjK>0K>Qbg_iaK>0K(Qbg_iaK(0FsK>aAGl1K(aAGl0tAvK(2K>0FsK>aAGlgB^kNx0
  Nogavj1B<avj0tNog2B<0oF_&Nog3B<0IWbC%B<2g0NoB<ARjNog1ga>Sp1B<a>Sp1gaBcE$1B<aBcE$1gatNu3H(3tH(0cU
  =aH(0NoB<atNu4H(0B:UaET>A|b2ASwA|b0Ftfavp0AC,avj0EkBcAjatAd*4EkAd*0BfEqavj3N%Ay0WtKmWt0EKcavj0Ft
  aEi0LaA=yaCfFb0]xA=B<A=y0FtfjAkf0AkfjFtf0FtfjBfEq0tGdA=0oBCkFtB]$0xBCkFtB]$0FtfaoAyjgoAyp0L,a(Ay
  j0DjaAxJ$0DnaAxJ$0DjaG%wj0DnaG%wj0DjB<I&A=y0DnB<I&A=y0DjB<I&A=yavJ$0DnB<I&A=yavJ$0DjB<I&A=yavj0D
  nB<I&A=yavj0DjB<I&A=yavji0DnB<I&A=yavjk0DjB<AAm0DnB<AAm0DjgZ*DkA=y0DngZ*DkA=y0DjgDkAAm0DngDkAAm0
  DjjX<A=jDn0DnjX<A=jDj0DjjWtB<A=0DnjWtB<A=0DjjWtjDn0DnjWtjDj0DjjDnjX<A=0DnjDjjX<A=0DjjI&A=jDnjI&A
  =0DnjI&A=jDjjI&A=0I&A=yB<Dj4Dn4DjavJ$4DnavJ$0X<A=yB<Dj4Dn1I&A=yB<Dj5Dn0WtB<Dj2Dn1jDjjFtf2DnjFtf0
  tBSnDj2Dn2DjaH(0DnARjDj1QbDj0DjFsOgKa0DnFsOgKa0DjFsOgKajI&A=0DnFsOgKajI&A=0B^j]c0BNj]c0B^j]cB<A=
  y0BNj]cB<A=y0FtfaDKfj0NwjZ*Ftf0N)jZ*Ftf0NwjZ*DkA=y0N)jZ*DkA=y0NwjFtf0N)jFtf0NwjDkA=y0N)jDkA=y0Nw
  jLaA=y0N)jLaA=y0NwjDkLaA=y0N)jDkLaA=y0tNw1N)0Huav0Igav0HuaAkfp0IgaAkfp0HuaPrfp0IgaPrfp0Hu&B<A=ya
  vj0Ig&B<A=yavj0Hu&jFtf0Ig&jFtf0Hu&jBfEq0Ig&jBfEq0Hu&jLaA=y0Ig&jLaA=y0Hu&jDkA=y0Ig&jDkA=y0AvkB;Hc
  Eq1iB;HcEq0FsHu1Ig1HuB<A=y1IgB<A=y0HujIg0IgjHu0HujHu0IgjIg1QbHu2g_iOgE$aHu0Qk&|oBj0BWla]bEy0JGqK
  (0FGl0HIa0D;kF$1AnF$1AcF$0ARyaAb0AdAjEkiU:0tAdAjkU:0AdAjtkU:0tAdAjtkU:0CbE$GfkAEd&tAd0D;AnF$aNu1
  AcF$aH(3jD;AnF$0tAnF$1AcF$1*Dkf0Cnt*Dkf0QhDkALhaCnHCwLs0AdC:aAxj4p0AnF$aAxp0UgaBc*2BfEq0EkAdAjA~
  ;AF&3aBc*1GdEq1BSnDj2Dn0X<I&DjB<A=y2DnB<A=y0EkIeA~;AF&0C%EkAdAjEq0tIeEq0%AdAj0Zh%AdAj0EcDc%h1D%%
  h0EtDc%h1D%%h0ki%h0Alzh0Bvzh0Bjzh0EcDczh1D%zh0EtDczh1D%zh0kizh0AcAnzh0<haM>Bj4Bv0AlhaM>Bj4Bv0Ava
  EyAoz2F<Aoz2B,iEnAoz2BlkEnAoz0E;akAoz2iAoz2EyAoz2F<Aoz0FeAv0zC%Av0%C%Av0zG>cAv0%G>cAv0z|u0%|u1AM
  <0zAM<0BczAM<0zC%Ax1BxE;0%BxE;0zBxNp0%BxNp0zcE;2Np0%cNp0zBcAB$0%BcAB$0zAdAB$0%AdAB$0khacAx0xAlLc
  0khaDwAk0CbAlAG&h0AlP&haAd*4tAd*3GfAj2EkE$h1haFeSp3DvaAd*5tAd*1P&haDv5aAd*6tAd*1hM=Cd0I:hDaBEkk0
  FtfjAlh0JgBfEqjAlh0AlhjJgLaA=y0<hM=Dn3Ig0AlPvh0<Pvh0JgBfEqj<h0<hjJgLaA=y0BfEqjAlh0AlhjLaA=y3JgBf
  Eq0<hjJgBfEq0BjCzVbh0D;I&Ech1AJaEth0%BxDo0zcDo0%cDo0zH=|u0%H=|u0=C%Ax1ARgaARgJ$1AxaAxJ$21DwPw0I&
  EchaYuJz0AJaEthaYuDv0I&EchaBcDv0AJaEthaBcDv0GkhDaBjW,EcDc0D;GkhDaBjW,EcDc0AlCzh0BvCzh0<Czh0BjCzh
  0kiCzh0AcAnCzh0EcD%Czh1DcCzh0EtDcCzh1D%Czh0AlCzNhh0BvCzNhh0<CzNhh0BjCzNhh0NfCzB;Axh0J=CzB;Axh0Al
  CzhyAj0BvCzhyAj0<CzhyAj0BjCzhyAj0+cEcD%CzhyAj1DcCzhyAj0EtDcCzhyAj1D%CzhyAj0AlCzhatBc*0BvCzhatBc*
  0<CzhatBc*0BjCzhatBc*0BcUySb0AdUySb0AlCzhA&<Czh0BvCzhAl&BjCzh0<CzhA&AlCzh0BjCzhAl&BvCzh0AlCzUeLc
  0BvCzUeLc0<CzUeLc0BjCzUeLc0AlzDw%h0BvzDw%h0<zDw%h0BjzDw%h0J=Czi~vh2F<~vh2k~vh2Ey~vh0AF*k1i0BSok1
  i0(F>LcBCaJ=0<zh0+b,FfAWrmE~q0B~nAV=AlH:Cw1IB%BvH:Cw1AV=<H:Cw1GLzBjH:Cw0zAlH:Cw1BvH:Cw1<H:Cw1BjH
  :Cw0BjCzhaCbM>Al6<0BvCzhaCbM>Al6<0AlCzhaCbM>Bv0<CzhaCbM>Bv0AlCzhaCbM>Bj0<CzhaCbM>Bj0zPhBjgAlh4<h
  2BvgAlh4<h2AlgBvh2<gBvh2AlgBjh2<gBjh0AF,hAnk3i2Ack3i2kAc2iAc2kAn2iAn0Bv%hGfAjaBcAj0AcCwDxmWkHc0A
  Rj%AG%2gzAG%1zAG%0VfHcaBaCd0DwCd1GuCd0zAvS;1E;S;0Caz|u0BczBUc0zBUc1BxNcBmS;2OkBmS;2JmBmS;2H=BmS;
  0BSkdo0EyAozAx0F<AozAx0Ba(FvzABf0DeBa(FvzABf0%(FvABf0De%(FvABf0AvAFkTs0JNaf0BIxw0BWrdo2x2(2:0JGp
  0HY=0C|r0FYg0HVw0HC&0%HoIPp0zE;DdEj0AWeBaHoC_:0EL$0FPk0KAh0GG>0C^$0CYq0JT=0HX*0kAozDo0iAozDo0Doa
  kAoz2iAoz0AlP&haBmAAo0BvP&haBmAAo0<P&haBmAAo0BjP&haBmAAo0FAsds2o0IIt0IEkA|w,JS<3HIj3H^*3DId3IPv3
  JGw0FtfaYxp0JNi,0IPz,0ABr,0HTo,0CniD&0FReHT&,0BIlebAI=3AJv3AWz3AMx3ALm3AXq3AX$3ABu3AXy3Y$3;Y$3u3
  ALk3AN$3AO)3_<3AQd3AQ>3AR<3AS;3AUd3AWn3AWu3AMj3AM;3BUu3Eh3ATz3W=3]>3Ct3P,3AIg3AXl3B^%Aq3Fn3cG&5a
  Dv3Gb3YycG&3MsG&3YyMsG&3Vq3Y%3B]p3CAom3BNl_<3BBk]>1cbAI=3AJv3AWz3AMx3ALm3AXq3AX$3ABu3AXy3Y$3;Y$3
  u3ALk3AN$3AO)3_<3AQd3AQ>3AR<3AS;3AUd3AWn3AWu3AMj3AM;3BUu3Eh3ATz3W=3]>3Ct3P,3AIg3AXl3B^%Aq3Fn3cG&
  5aDv3Gb3YycG&3MsG&3YyMsG&3Vq3Y%3B]p3CAom3BNl_<3BBk]>0D:ebAhatAj1cbAhatAj1ebAha>Bf3B=a*3AaaDv1cbm
  a*3BoaEn*1ebBtaE:1cbBtaE:1ebBnaE:1cbBnaE:1ebB:aE:1cbB:aE:1ebF&3A<a)3Cam4F&1cbBpai)1ebCia)1cbCia)
  3BpaIr1ebAoBt1cbAoBt3JArH$3qaBTj3CaAaaDv3naBsBhJ$1bceCaq1WwcbCq0GpbeBp0D:ebAba]aDv3B:a]aDv0HwebA
  _z1cbA_z1ebCCa1cbCCa1ebIu1cbIu1ebBDa1cbBDa1ebABx1cbABx1ebB^t1cbB^t1ebAIm1cbAIm1ebBJg1cbBJg1ebB~l
  1cbB~l1ebBKm1cbBKm1ebADh1cbADh1ebBNm1cbBNm1ebGy1cbGy1ebF,1cbF,1ebADs1cbADs1ebn1cbn1ebEw1cbEw1ebH
  r1cbHr1ebAT(1cbAT(1ebKs1cbKs1eb]g1cb]g1ebPk1cbPk1ebADk1cbADk1ebK:1cbK:1ebAE,1cbAE,1ebTbA;1cbTbA;
  1ebDzHwF%1cbDzHwF%1ebRqABx1cbRqABx1ebTbADh1cbTbADh1ebTbF,1cbTbF,1ebRqF,1cbRqF,1ebDzHwAE,1cbDzHwA
  E,1ebZw1cbZw1ebNgUq1cbNgUq1ebDzHwUq1cbDzHwUq1ebDzHwKc1cbDzHwKc1ebA_vY;1cbA_vY;1ebTbYv1cbTbYv1ebD
  zHwYv1cbDzHwYv1ebDzHwAq1cbDzHwAq1ebBM:Aq1cbBM:Aq1ebDzHwBJm1cbDzHwBJm1ebDzHwVw1cbDzHwVw1ebDzHwYl1
  cbDzHwYl1ebDzHwBEp1cbDzHwBEp1ebDzHwWp1cbDzHwWp1ebDzShWp1cbDzShWp1ebDzShAEr1cbDzShAEr1ebDzShM*1cb
  DzShM*1ebDzShAW,1cbDzShAW,1,Y)2GyHr2EwHr2IZv2KsHr2ADkHr2WpAT(1ebRqUq1cbRqUq1ebRqYl1cbRqYl1FcF,j2
  IXyC|j3BNv1ebBAtY;1cbBAtY;1+fDzShD,Cu3ALgG%w3F_iG%w3AW$X:1JysAo1D,Cu1G^%X:0^(cbF(3AAu3Vu3ABq3Ea3
  AH<3AAc3AHf3Dx3Y*3AD%3Je3_>3Dd3AE>3AIn3Zt3Zx3W&3U;3AFf3ADj3ACl3|%3Gs3AA=3Mu3_g3ABb3AA,3AIe3ADb3A
  Ct3E&3^=3Hv3Yr3AC$3+b]r3+fXh0+cJEmbA:2J]k2J]l2J]u2J]v2A~(A_hAXi2AXi2J]n2J]q2J]o2J]p2J^x2J]s2AXk2
  W>AXk2J]z2AIf2A~(A_hAIf2W>AIf2J]x2]p2CDf2W>CDf2CDj2W>CDj2Hb2AXm2CZhAXm2W>AXm2J]$2CDg2CDh2W>J]w3P
  b2CDi2Fn2CDk2J])2AXh2W>AXh2C~tAXh2J]*2J]:2J],2Sx2J];2J]m2J]<2J]>2J^a2CDm2CDn2JBjCDn2J^e2Ly2Gb1+h
  GpbGJkw1Ibw1+oIjVz0AB*LtGN:2G]*2ICo2IWu2IS:2DI$2JFm2DT>2HH)2HLr2G)|j2KBt2ET(2EQd2F~<2JDl2DPt2HVu
  2HXj2FLd2FLh2FLg2FLf2+jFa2AUs2AUq2IYg2IYu2B^=2AUr2+bDM>2DNs2DNq2DNa2DNc2DNb2DNr2+bAIp2CEu2CEr2KC
  g2KCk2CEq2CEt2+bDNd2DNp2DNn2DNe2DNf2AJ:2DNo2+bH_i2H_s2H_m2H_j2H_l2H_k2H_n2+bAOo2GIy2GIv2GIs2ADx2
  GIu2GIx2+bCDc2JZ%2JZt2JZq2JZr2CDd2JZu2+bFOp2FOx2FOv2FOq2FOt2FOs2FOw0+bFcMwbL$3Lx3Kf3Is3Lz3I<3At3
  It3Kb3Ea3n3Eh3L:3Pj3Fq3Aq3Na3H*3Ct3ATq3Vq3FAy3m3K&3ALj3APy]h3Sx3Fn3Ljm3DtG&3MsG&3LjMsG&0iD&Z<T(2
  FeZ<T(0kZ<As0iZ<As0kFeZ<As0iFeZ<As0HqBK)T(1FeBK)T(0FeAWaT(0kAWaAs0iAWaAs0HqAv0kHqBUmAs0iHqBUmAs0
  E|:EK%0ARp0BHbARp0CnBHbARp0FYi0FeHO>0BjA_:0BvA_:0FeH=D&0tMdOr0C<_e0|sAJq0OraCo0BfaBhj0kBsBVcAs0i
  BsBVcAs0Bfavj3p0kAdAjaAFu0iAdAjaAFu0EykAoAs1iAoAs0F<kAoAs1iAoAs0kSolAs0iSolAs0ktEv0itEv0oAyA&svE
  s0svA&oAyEs0Fw(vEs0:vw0CnG%w0AdBf0BhNv0MmIb>v0CaDh0Hqv1Dh0CaO:0X&akBIz2iBIz0CaX&0EyAoIaf0JJ<E$0J
  DrE$0IZzD,Cu0AdAeAy0]nAdC:0DMl0tOr0CnDh0tGO(Grw0E$akAWw0tAU:w0C<BsY,3aY,j0BsY,2av0tIZiDh0FeIe0Ek
  X&0BQkDh0HTbw0HZsE~sw0EK$AW$X:0EjHTzaiBCs3kBCs0B~xfeNj0BQkHlw1G%w0kAvAsa*0iAvAsa*0kAvAsat*0iAvAs
  at*0EyAokEv2iEv0F<AokEv2iEv0MdOr0+;^cAFv|,2AKb2Wms3o3x2Ln2Hc2AVc2_rs3o2BEn2ATh2cs3o2BNds3o3x3(2A
  Gz2AVr2B^ms3o2Gws3o2Gg2ASx2+bDPw2P$2Ho2BDz2BRl2DQ$2N;s3o2Pm2BVgs3o2AGwAoQ;CAq2^f2X;2BK=2AJn&AKd2
  Rw2AUms3o2AJe2AT&2L&AT&2AQks3o3x3(2BQs2ATr2AFy2BGm2Dz2AJts3o2AEc2BRk2BIts3o3x2AHm2AKe2D%s3o2L&Wn
  2AGwFx2Fx2L&Wv3Ic2ACf2L&BBj2AGwAH=2AH=s3o2BCb2L&ACp2Cbs3o2L&Cb3BHy2BRns3o2Wj2S)2L&B|$AOv3Iv3P)3A
  Md2ABvs3o3x2L&ABv2Jz2L&R:2AA%2AMu2L&Ql3AA$3Qz2AGwAW<3~<2L&AMk2AC>Yf2L&Yf2AC>AHt2L&AHt2AC>Te2L&Te
  2~t2AC>~t2L&~t0+mGB>AFvs2C:2v2Ls2Wm2)2o2BN&2Je2GL&2BF=2Af2AnHc2AKq2Tq2AVc2B;Hc2_r2ASd2JXx2AUn2iB
  ;Hc2FSgALw2Cc2BEn2ATh2AKb2HYy2CY>2Jf2ALw2M%2IH=2Nk3IWe2FBg2Ms2U>2AJ<2ICy2F_a2c2BNd2EK(2IX=2T*2IC
  e2AXd2HP:2CA;2ALp2D;AVr2FeAKb2CbI]j2oR)2IS>2Xr2B^m2DJy2AUu2Gw2FPu2BEv2Gg2AJq2ASx2H>2ES,2AI;2Av2D
  k2P$2BZu2Ho2Q;2GJn2Cu2BDz2JWh2JkDk2DUs2BHo2BCd2B_e2N;2Pm2DQ;2BGu2tCd2AoQ;CAq2B^g2FEc2^f2X;2HY%2B
  K=2BQo2AVy2B_%2GM*2JN%2BGy2AJn&AKd2IUt2FeAVj2%2IVx2Il2Rw2B^y2h2AUx2AUm2CAb2FNj2DM<2IZm2AJe2|:2AT
  &2BK>2AQk2ATr2AB=2Dz2g2HXa2X>2AJt2AEc2G]m2BZ%2C_&2BRk2W<2HQk2BAr2IZ,2DUk2BIt2AHm2F_v2BAn2AH=ALw2
  AKe2D%2Wn2Fx2Wv2JQp2DG;2AFh2A~f2Ic2Nz2ID=2ACf2BAs2BBj2DIp2G^$2AH=2BCb2AIc2ETf2JS=2ACp2Cb2BHy2BRn
  2IV&2D;B|uAA$2Wj2S)2JX%2Au2AOv2B|$AOv2GLw2K=2Iv2P)2AMd2ABv2Jz2FGy2R:2AA%2~l2Vv2FE)2IGrAIc2BBl2AM
  u2Ql2AA$2Qz2AK<2AW<2FRg2~<2G]h2z2E~$2AMk2JG>2^n2AFz2Zn2Yf2AHt2Te2~t2BG:0+$L<ERkRlkyi3jyp3ky>gi3j
  y>gp3D,B_x3B_xGfj5p5k5B,k6i5Blk3ARh1+eI(1Dh1D,Cu0ETiw0VyF_jB_b,0L<R>w1^dw1DbB(0kD&As0iD&As0ktD&A
  s0itD&As0kF>As0iF>As0k%F>As0i%F>As0kzTyAs0izTyAs0AFlw0FKpw0kKuIcAs0iKuIcAs0k%TyAs0i%TyAs0k%KuIcA
  s0i%KuIcAs0k%AvAs0i%AvAs0I:E$0CntO(Grw0tO(Grw0BstO(Grw0AFlwAu0BJeQxs2o2x2(2:2Ae2Am2Af2Ar0L<BNyCh
  w1N%Chw1AK>Chw1FAbChw0R*C)vChw1tvChw0RaE$0AdGB;|,w3aQ>K=w3wB,Ao3aQ>K=wB,Ao3wBlAo0DwAFlw0L<AHiC:A
  L;Ib,0BJeQxCc2E)2I)0AdL<R>w0GWkw0ARtC]mw0L<~zTs1AoM&I(0+bYsbcm2m2cu2u2cl2l2cq2q2cn2n2At2Bq2Jd2Jb
  2Jl2Lh2Jc2Qo2Hy2Nk2Bd2Ee2I%2Rd2Jh2Pd2Iz2I<2Id2Pc2Be2Bi2Kt2Jx2cH&2H&2Le2Fq2Is2y2Jk2A,2F,2Ga2Gq2E<
  2Aq2B$2Aw2G,2L%2Ew2M(2Jv2Ny2E&2L$2Eh2Hm2Of2Ko2A*2Gy2Fg2Go2Iw2cA:2A:2cFn2Fn2cGb2Gb2A$2Lp2Iy2Kp2Hr
  2cCy2Cy2I;2Hv2Ih2Az2Xc2cAt3Jc0+cFc_kQ>K=w2ATlK=w0_kQ>K=w1ATlK=w0YsR>w1Q>R>w1G(J_p0_ktOr0Pqbcm2m2
  cu2u2cl2l2cq2q2cn2n2At2Bq2Jd2Jb2Jl2Lh2Jc2Qo2Hy2Nk2Bd2Ee2I%2Rd2Jh2Pd2Iz2I<2Id2Pc2Be2Bi2Kt2Jx2cH&2
  H&2Le2Fq2Is2y2Jk2A,2F,2Ga2Gq2E<2Aq2B$2Aw2G,2L%2Ew2M(2Jv2Ny2E&2L$2Eh2Hm2Of2Ko2A*2Gy2Fg2Go2Iw2cA:2
  A:2cFn2Fn2cGb2Gb2A$2Lp2Iy2Kp2Hr2cCy2Cy2I;2Hv2Ih2Az2Xc2cAt3Jc2D$2Sv2Lx2Q=1>v0_kBW:K=w0PqR>w1Q>R>w
  1G(BMs0+fBAybCe2B=2A<2C&2Bw2Bo2Az2Ah2Bk2Bn2Bt2Cq2Dl2Cd2KAk2BBv2Wo2Aa2B:2B*2Ab2m2n2q2Qj2Cj2Rr2Cr2
  Uc2F(2Ea2N>2Om2L:2u2l2_f2Bp2K,2FMv2ANi2navj2|g0+bR*bTx2AG*2AOd2T;2AEs2AEt2U*2AG;2Ul2AF;2AF<2AF=2
  AF>2AS)2AS(2AF:2T)2Uj2AG,2AFg2Us2AG:2R;2Ro2AG)2S<2Tw2U%2Uh2Tp2m2F;2A:2~;2^s2q2AXn2Ly2n2Cy2AW)2E=
  2Gb2l2AW;2Hv2I;2Fn2Rv2Hb2u1Ry1bAUp2AQs2AQr2BS:2BYp2AS*2BYs2BYr2BYu2APt2APu2BQ(2AN&2BV>2AR*2BWb2A
  R)2AR(2BWc2AN)2BLy2AT*2B];2AT:2AT,2AT)2ARo2AUo2AXp2CDq2CDp2AN(2B^;2AXo2CDv2CDw2CDu2CD%2CD$2CDz2A
  |l2C_i0+bL<A_<GNqw2Jgw2sw2ow2xw2(w2Eyw2>w2F<w2Rzw2Wmw2N,w2AChw2ACxw2M%w2Jew0BAybJv2Rd2Tt2Lh2Eu2A
  Lx2Ed2BUp2AC;2C^i2F_q2CBy2R<2HDm2CZr2C~a2P<2Nt2BUo2F_r1rbB=3Bo3Bn3Bt1bFLi2AO%2CEp1rbBk1bFOl2AOl2
  E=2N=0^c*Bo2JWs2JYz2DKz2B_y2FYo2FYk2AC&2FYn2I|&2FYl2FYp2FW,2FYm2FYq2Az2Bt2Ab2B=2IXg2Bw2BKk2BJq2I
  |t2I_l2AUt2IR%2HT;2H]i2JFe2I|(2I_e2FYf2FYr2HU=2Dl0+mPqbcJl3I%3Jh3y3Ga3Aq3G,3M(3E&3Hm3Fg3A$3Lp3Iy
  3Kp3Hr0AFaR*Tx2T;2U*2Ul2T)2Uj2Us2R;2Ro2S<2Tw2U%2Uh2Tp2Txm2T;m2U*m2Ulm2T)m2Ujm2Usm2R;m2Rom2S<m2Tw
  m2U%m2Uhm2Tpm2Rol1AOiRlHPx3nM(1+bAC:s2o2x2(2:2Ae2Am2Af2Ar2Cc2Ho2Pm2N;2AXc2BQu2M%2P$2AUw2BJi2B^o2
  _=2B^z2BG$2BCi2BM<2IAq2AJ(2B_k2B_u2BF>2BYg2A_(2FEw2Kq2BZ%2BX;0DwAC:G%2GE>2ATg2BMs1DbCcDdzAv2E)Dd
  zAv2I)DdzAv2KdDdzAv2F)DdzAv2K;DdzAv2FyDdzAv2L*DdzAv0BVef0DwDbE)s3o3x3(3:3Ae3Am3Af3Ar2I)3s3o3x3(3
  :1R*Tx2T;2U*2Ul2T)2Uj2Us2R;2Ro2S<2Tw2U%2Uh2Tp2Txm2T;m2U*m2Ulm2T)m2Ujm2Usm2R;m2Rom2S<m2Twm2U%m2Uh
  m2Tpm1AOiRlDOk3GAj1R*R;l0AOiB_b,0DwAC:s2o2x2(2:2Ae2Am2Af2Ar2Cc2Ho2Pm2N;2AXc2BQu2M%2P$2AUw2BJi2B^
  o2_=2B^z2BG$2BCi2BM<2IIr2T&2Yi2I^p2FBj2BW)2C|,2F|m2Kq2EKw2EK)2Cp2Dq2Bs2k2i2GXk2IAh2B_k2B_u2BF>2B
  Yg2A_(2AEu1DbI)Ae3Am3Af3Ar2Kd3s3o3x3(3:3Ae3Am3Af3Ar2F)0L<AHi,FfF|$4FEn4GV)4C^,4BQc4GAm4GAl4C|>4I
  P$4HPn4HIi4EQt0AvBJq1FAr1AL%0GNhGMxf0DwPqm2u2l2q2n2At2Jd2Jl2Jc2Hy2Bd2I%2Jh2Iz2Id2Be2Kt2H&2Fq2y2A
  ,2F,2Ga2Gq2E<2Aq2G,2M(2E&2Hm2A*2Gy2Fg2Go2Iw2A:2Fn2Gb2A$2Lp2Iy2Kp2Hr2Cy2I;2Hv2Ih0AvBGc_=IAc1C^w1C
  _>1C^l1CVx1F_o1F_)1JNn1FA,1E|=1HP=1HQb1GB%1GCh1GCk1FJt1FJo1FMc1FMe1GIz1FMk1GFc1GFd1GFe1GFf1FOc1F
  Od1GH*1GH&1GDa1GGt1GGo1IGu1IHl1IVi1IPw1IPx1EO(1ERn1EUe1JFu1HAs1HIh1FPt1HRw1HRx1DE=1HV)1HWk1HWj1D
  Ih1FXb1FXd1DKr1FXm1FRb1BVz1HUm1FRn1HUp1HUh1DHd1HXq1DI;1ANa1HXx1FVl1FVj1GU>1GVc1GU;1GWb1GVv1G]c1G
  ]s1G]t1APq1GXp1GXm1J]h1J]j1J_>1ICc1ICb1IEg1IEm1IAk1IAl1JWb0L<AHi,FfBKaB(5s5o5x5(5:5Ae5Am5Af5Ar5C
  c5Ol5Nb5U&5Tm5Pl5Q&5Up5Rs5T<5E)5CBb5AWq5CBc5CBa0AvFW*1Bi1Cr1Aj1BUw1HT:1ET$2Fw2^g1_f1BGc_=FRa3I|k
  3JAs3GXq1EK&1AwC]w1A,1Fgm1A*1At1GC$1APi1FJy1DL;1GC%1HU<1HC=1FgC&2Bk1GYp1BL<1BKk1GEn1GZm1FL*1JD=1
  FgAh1G]x1ETs1GF$1FF;1HHm1FgA<1AEh1AKg1ADo1AEhFw1AKgFw1A<Fw1ADoFw1AEh^g1AKg^g1A<^g1ADo^g1A<A&Ab4F
  w1Aw1_t1BRp1FNf1BX$2A&Ab4Fw1HZb1HJd1FgAb1G_m1H]a1AQ)1FgBp1_;1GIa1_;APq1H]b1HK>1FgCi1BRw1AOl1BRwA
  Pq1BnAE(1A<AE(1P<1DJi1BBo1BBp1B*A&BL<1Oj1BDn1FOo1Aq1AC&1Dx1ADm1ADoe1GHc1GN*1GN,1GOb1GPj1APic1G]d
  1G^o1HU>1HXi1HYi1HYk1IYf1AU;1JWc1BpA&A<1mA&A<0L<AHi,FfBDms5o5x5(5:5Ae5Am5Af5Ar5Cc5Ol5Nb5U&5Tm5Pl
  5Q&5Up5Rs5T<5E)5CBb5AWq5CBc5CBa5AH&5JJ,5JJ*5JJ(5JJ)5I)5JDi0AvVs0+ERsFRpFfFjELgACx3H~yM%2ESqH)FjD
  Hg2J_rFGa2CCk2EJ>2FjC_w2YtAHq2cB|x2JGv2ARw2IZo2FEr2YpBWx2G]>2FAc2BG<2AXdDdFjEQs2C^)2EKh2BAbM=2BI
  r2IX$C^x2AF*2F_s2YpB|x2JfXz2YpBW(2FjCYaN;3DRdPm2F_k2E^$2IA%2YpASd2HY&2BDj&FjBa2FjBGs2ARc2HPh2EQ:
  2BD%2ANl2DJr2DUqyBQm2AMnAHq2HZ*CB$2HQl2FjJWm2IA,2FjBBl3C_zAVt3BL&IZ&T*2ERr2FjGV>GU=2CX>2FjJV&3FK
  kP)3GAeBNc2ETa2GNg2BK$JH:2cBW(2CY=AKi2DHeAKi0+QYqHbLtANv2BK:2u2F|a2F];2F^k2K&2F]:2H)2A|)2m2A|c2J
  Np2CBz2JNo2AE:2AE;2n2ARa2AB,2q2P*2BAa2DIq2L%2DIf2DH<2DH=2DH:2DH;2AJg2DGc2B$2DF$2DKk2DKi2DKj2DI>2
  Hc2Of2DI)2DHq2L$2DHo2Qd2DKx2Jv2DKm2DKp2S,2DK(2DK)2Og2DK$2DK&2DK%2BWk2HWz2Ew2BWf2HWi2BV;2HV<2HTv2
  HT)2Aw2Lm2HZx2HZv2HZw2AFm2HYf2Ko2ASa2ASo2HZ=2Ny2BXb2HZ)2HZz2BXf2H]h2H]d2H]e2H]g2H]f2DGq2DGr2A~n2
  DGp2DGn2DGo2DGl2DGm2DGg2DGh2Vg2DGf2DGx2DGv2DGw2DGt2DGu2A~o2DGs2DGk2](2DGj2A~q2DG%2A~p2DGy2DG$2DG
  z2DG)2DG*2DG&2DG(2HBd2HBe2HA>2HBc2HBb2BSc2HBa2HA<2HA=2HA:2HA;2HBh2HBi2HBf2HBg2HBn2HBo2HBj2HBk2HB
  m2HBl2HBt2HBu2HBp2HBq2HBs2HBr2FT&2FT(2FTx2FT%2FT$2FTy2FTz2FTu2FTv2FTs2FTt2FT=2FT;2FT<2FT*2FT,2BJ
  &2FT)2FUc2FUd2FT:2FT>2FUb2FUa2FUi2FUe2FUf2FUh2FUg2APw2G]v2Gy2G]q2GZ<2GZy2GZz2GWl2GWr2A*2_%2G|a2G
  |b2G_<2G_>2G^*2G_e2Iw2BRj2GYg2Go2G|k2G|o2Fg2G|c2G|h2G|e2G|t2G|u2BR%2G|s2FFl2FFp2Pk2FFd2FEh2AL:2E
  %2FEd2BHe2Pn2FGh2FHf2FHg2R$2FHb2FHc2BHo2FHl2FHm2FHi2FHk2JTh2JTn2Sv2JTc2CCc2JS;2JS&2JS(2JQ$2JQ(2D
  $2JQs2JT&2JT*2Q=2JT%2JSu2CB=2JUb2JUc2Xc2JT>2JUa2CCj2JUk2JUl2AW(2JUh2JUj2JUi2ETh2ETp2Jx2ES)2ESm2A
  Ld2ESk2BDk2EPw2Bi2AK)2E^u2E^t2v2E^c2Jk2EUc2ERt2Is2ERd2E^)2E^,2Le2E^v2E^%2E^y2B~y2JE<2Kt2M>2JEl2]
  e2JEk2B|&2JBk2Be2JA:2CA,2JJm2JJk2JJl2B~;2JGg2y2Ey2JCv2Fq2JCh2JJu2JJy2H&2CA:2JJt2~s2EQb2EQc2BDw2E
  Qa2EP>2EP<2EP=2EP$2EP%2D>2EPz2EQj2EQh2EQi2EQf2EQg2AK:2EQe2EP)2BDt2EP(2EQm2EQn2BDx2EQk2EQl2BDy2HC
  a2HCb2AQg2HB=2HB<2HB;2HBz2HB$2Zl2AQe2HCf2HCg2AQh2HCe2HB*2AEo2HB%2HCl2HCm2AEp2HCi2HCk2HCj2FUw2FUx
  2FUq2FUv2FUt2FUu2FUr2FUs2FUk2FUm2AM>2FUj2FU(2FU&2FUz2FU$2FUy2FUp2FUn2FUo2FU)2HF$2HF&2F,2HFx2HFj2
  HFd2HFe2HA(2A,2HAv2HK)2HK&2HK(2Dk2HIl2E<2HIc2HC;2Gq2HC$2BTx2HK=2Ga2HK*2HK:2HK,2FS<2FS=2AM=2FS;2F
  S:2FS*2FS,2FSz2FS%2BJ%2FSy2FTf2FTd2FTe2FTb2FS>2FTa2FS)2FS&2FS(2FTj2FTk2FTc2FTg2FTi2FTh2FTp2FTq2F
  Tl2FTm2FTo2FTn2GNv2GNz2Kk2AO&2GM(2GM)2BN(2GM&2GLd2GLk2A)2AOr2GPb2GPc2GO>2GPa2GOx2GO)2J&2GOs2GMo2
  Ma2GMe2GPh2GPi2H<2GPd2GPf2GPe2GPs2GPt2AO>2GPq2GPr2BOt2FMm2FMn2Jb2FMf2FL=2FL>2FL;2FL<2FJv2FJx2Bq2
  ^$2FN>2FOa2FN<2FN=2BIq2FNe2Nk2FM;2FKo2FKq2Qo2BH;2FOi2FOj2Lh2FOb2FOh2ACs2BMh2GFm2Jd2BMg2GE)2GE$2G
  E&2GCm2GCy2At2BLw2GHy2GHv2AOk2GGu2GGy2Hy2GGq2V&2GDy2Jc2GDi2ADt2GH=2Jl2GHz2GH,2K)2FK(2FK)2BIb2FK&
  2FK$2FK%2FKu2FKv2Ym2FKt2FK;2FK<2BIf2FK:2FK*2FK,2BIc2BId2FKy2FKz2AMs2FKx2FLb2FLc2BIe2FK=2FLa2FK>2
  GY=2GY<2GYs2GYt2GYq2GYr2GZf2GZd2GZe2GZa2GZb2Nr2GY>2GY;2GY,2GY:2GZj2GZk2GZc2GZg2GZi2GZh2BKf2FX=2F
  X)2FX<2FX:2FX;2FX*2FX,2FXz2FX$2FXx2FXy2FYd2FYe2BKh2FYc2FYa2FYb2FX>2BKg2FX(2FX%2FX&2HD;2HD,2HD:2H
  Dg2HDh2Cs2HDe2HEx2HEy2HEw2HEo2HEp2Wc2BS(2HDl2BSr2HDj2BJz2FSn2^=2Vw2FQn2Aq2FQa2FXk2FXl2FXi2FXj2_b
  2FW(2Hm2FVn2FRo2E&2FRi2JV>2CCr2Cy2CCm2JX=2CC=2JX<2JXw2Ih2JXo2JWr2Hv2JWo2KBo2KBp2Rd2KBl2KBh2KBf2K
  Bg2J~>2KAb2Ee2J~,2KB*2KB(2KB)2CEl2KBw2Pc2KBv2KAj2I<2KAg2KB:2KB;2Pd2CEn2KB,2CEo2KCe2KCf2CEp2KCb2K
  Cd2KCc2DQx2DQ%2ABa2BB>2DQm2DQq2DQk2DQl2Oh2DM=2C$2AA)2ELy2ELx2BCy2EK,2ELc2Oj2EKu2DOc2Rj2DN<2AKy2E
  L=2AKu2^h2EL,2EL%2BC:2EMk2BC)2BC,2EMj2EMh2KCr2KCs2CEr2KCq2CEs2KCp2KCn2KCo2KCi2KCj2AIp2KCh2KCu2CE
  t2KCt2KCm2CEq2KCl2KC$2CEu2KCx2KCz2KCy2KC,2KC:2KC%2KC(2KC*2KC)2HMf2HMg2HMa2HMe2HMd2HMb2HMc2HL:2HL
  ;2AQ<2HL*2HMm2HMl2HMi2HMh2HL>2HL<2HMq2HMj2BUa2HMp2HMo2HMv2HMw2HMr2HMs2HMu2HMt2IVl2Ae2I%2IVh2IUy2
  IUv2IUx2ATd2IH$2Bd2BZr2I^x2I^v2I^w2AUj2IXd2Id2IW,2IQb2Iz2IPy2I^=2I_a2Jh2I^y2I^:2AHa2I|r2I|s2I_m2
  I|l2I|q2I|m2IY(2IY)2AUq2IY&2IY%2IYz2IY$2IYs2IYt2Fa2IYr2IY,2IY:2AUr2IY*2IYw2B^=2IYv2IY<2IY=2AUs2I
  Y;2IZd2IZe2IY>2IZa2IZc2IZb2KAo2KAp2I=2KAn2KA&2KA$2KA%2KAy2KAz2AX%2KAx2KAs2KAt2Lz2KAr2KA,2KA:2AX&
  2KA(2KA*2KA)2KBb2KBc2KA<2KA=2KBa2KA>2BBz2DOt2C*2DOo2DP;2DP<2DP,2DP:2DP$2DP%2Rn2DPx2DO<2DO=2H*2DO
  (2DQb2AA>2DP=2DQa2DP>2DQi2DQj2DQe2DQf2DQh2DQg2IC;2Jp2IDg2IDf2IDb2IDc2BY>2IDa2IC=2IC>2BY<2IC<2IDk
  2IDl2IDe2IDh2IDj2IDi2IDq2IDr2IDm2IDn2IDp2IDo2HIs2HIt2AQz2HIr2HI%2HIz2HI$2HIx2HIy2HIu2HIv2HI:2HI;
  2HI&2HI)2HI,2HI*2HJb2HJc2HI<2HI=2HJa2HI>2B]d2ISi2Ct2ISa2IT;2IT,2IT:2ITn2ITr2Py2B]k2B]f2ISy2Fz2IS
  p2IT>2IUb2M:2IT<2IT=2B]q2IUj2IUk2B]w2IUg2IUi2IUh2AFz2H~k2A$2ASx2IEe2IEc2IEd2IC)2IC:2Hr2IC%2IA:2K
  p2IAm2IEl2IEn2Iy2IEf2IEi2IEh2IEz2IE$2BZf2IEw2IEy2IEx2F~m2F~n2Tt2F~l2F~i2F~j2F~g2F~h2GAq2GAr2GAo2
  GAp2Tu2GAd2Pp2GAb2GAw2GAy2V$2GAs2GAv2GAu2GA(2GA)2GAz2GA$2GA&2GA%2H^l2H^m2|&2H^k2H^h2H^i2H^f2H^g2
  H^;2H^<2ASu2H^:2BXl2H^r2AFt2H^p2H_c2H_e2|(2H^=2H_a2H^>2H_r2H_t2H_h2H_o2H_q2H_p2F~u2F~v2BLe2F~t2F
  ~r2F~s2BLf2F~q2F~%2F~z2F~$2F~x2F~y2BLg2F~w2BLi2F~*2BLh2F~&2F~)2F~(2F~:2F~;2BLj2F~,2HGe2HGf2|f2HG
  d2HGb2HGc2HF=2HGa2HGk2HGj2HGh2HGi2BTc2HGg2HGp2AQw2HGl2HGo2HGn2HGu2HGv2HGq2HGr2HGt2HGs2BT=2HLp2M*
  2BT<2HLk2HLl2HLi2HLj2HL$2HLy2HLz2HLu2HLv2Si2BT>2HL&2HL(2AQ;2HL%2JY<2JY=2Mo2JY:2JY*2JY,2JY(2JY)2J
  Zi2JZh2JZd2JZe2CDa2JZa2JZ$2JZ&2JZp2JZx2JZz2JZy2AXr2J^=2Hb2J^<2J^)2J^*2CDt2J^(2J|h2J|i2J|f2CD)2AA
  a2J_u2Gb2J_o2AIj2J|n2Fn2J|j2J|l2J|k2J|t2J|u2AXx2J|q2J|s2J|r1+dAFvBXl2Kk2BMh2BT<2BC,2AUq2BId2BH;2
  Gy2BKf2BOt2A~q2BRj2Gb2ASo2BKh2B|&2Bq2CEn2BC:2BDy2S,2BIf2BT>2H&2ARa2BLi2CEl2BXf2BJ&2AXr2CCj2B]w2C
  B=2Ee2Pp2BUa2BLj2BIq2BLf2Ih2Le2B]q2BN(2BC)2BCy2BB>2BKg2B]d2CEo2B]k2H*2CEs2BSc2Jc0+jBN>bB$2Aw2Du2
  Bi2Be2Di2Bq2At2C=2Cx2C$2C*2Ni2Gt2Ml2A*2A,2A)2Bd2I=2Ee2Cs2Aq2Mn2R,2E%2Cy2Ct2A:2Ef2m2F;2q2Rv2u2n2l
  2Iq2AWs2E=2ChAP<Kt3A,Ko3AP<BC*4Of4A,4F|>1EsDh2D,Cu0JQmLtEu2E|>2ACy2AH>2JWl2Sk2DHx2Xn2AEa2BMv2GYx
  2BH$2Vo2U=2]b2~n2ER(2ER,2AD&2|*2X(2AQf2Wn2AGo2AAb2AIo2BBr2Y&2|e2]q2AN;2BSu2^%2APo2AQi2BT,2u2Dx2G
  ,2BJw2I;2JW:2Ew2DHy2L%2APj2BMw2GY$2BH%2Pk2Sv2Kt2W:2ER>2ER:2Kk2Lp2Jx2AQg2I%2Z(2Rd2AXz2ABa2Tt2|f2H
  b2Jd2BSw2Jb2Gy2F,2M*2m2F(2HDc2Aq2BJc2Cy2JVz2Aw2Ep2B$2_)2_t2GG$2BQw2AMq2E%2D$2Be2Di2Eb2ER)2A)2A$2
  Bi2Zl2Bd2Ct2Ee2I=2C$2Cx2BS=2A:2At2Y*2|d2Bq2A*2A,2C;2Ed2HQc2_a2~:2JXn2|z2DHz2BAu2APm2BMx2GY)2BH(2
  AMg2CCh2]f2AVp2ESb2ER<2Zb2BY,2BEu2BSf2~i2ATw2CEk2KAw2AKp2BLm2BTd2AIi2_s2AQo2FM,2AP$2AQy2HLt2l2U;
  2M(2BKd2P*2JX:2Ny2DH$2Jv2APn2BMy2GY*2AMr2R$2Xc2H&2AVs2ESd2ER=2H<2Iy2Le2AEp2Jh2M:2Pd2AX&2AKu2V$2A
  Qw2Fn2Jl2AQp2Lh2Fg2Ga2AQ;2n2Dd2BS&2Hm2ANa2Ih2AXb2Ko2A~,2Of2APl2ADq2GY&2BH&2FJ*2Pn2Q=2y2Lw2BEa2ER
  ;2J&2Hr2Jk2AQh2Id2Py2Pc2AX%2Oj2Pp2BTc2Gb2Hy2AQn2Nk2Iw2E<2Si2q2Ea2BSs2E&2BJn2Hv2JWn2Eh2AAz2L$2AD>
  2BMu2GG&2GYw2ACk2FJ%2Oo2Lx2Fq2Fj2^k2ER*2Ma2Kp2Is2AEo2Iz2Fz2I<2Lz2Rj2Os2T>2Ly2Jc2AQl2AQm2Qo2FKf2G
  o2Gq2AQ,2K,2AD)1Dh1D,Cu1G%w1LtBSeE%3At3~i1,FEp2GC>2JEy2BS;2DFw2AB<2Wy2AK&2EUb2GHu2JF&2ET&2GAa1Bg
  B(2s2o2x2(2:2Ae2Am2Af2Ar1LtBSeA*3Jk0+uMwebCEe1cbCEe1ebABu1cbABu1ebCnTg1cbCnTg1ebGi1cbGi1ebALj1cb
  ALj1ebAPy]h1cbAPy]h1ebBA;Fi1cbBA;Fi1ebIx~>1cbIx~>1ebP,aOc~>1cbP,aOc~>1ebLjSx1cbLjSx1ebCnFn1cbCnF
  n1ebLjm1cbLjm1ebFsDtG&1cbFsDtG&1ebBAgG&1cbBAgG&1ebLjFsDtG&1cbLjFsDtG&1eb]r1cb]r1ebCnNa1cbCnNa1eb
  M;Is1cbM;Is1ebM;It1cbM;It1ebM;Kb1cbM;Kb1ebAEjn1cbAEjn1ebA~>n1cbA~>n1ebtAEjn1cbtAEjn1bG_(n0FcMwJU
  n2CcV>f2ApV>f2A(V>f0IV(Ei0FcMwbAWtK&3u3Hb3l3Qpf3P,3M;f3Fi2Y,2BVi0MwY,1BVi1ebALs1cbALs1ebBFg1cbBF
  g1ebCEf1cbCEf1ebAJ:1cbAJ:1ebBFh1cbBFh1ebFqa>)1cbFqa>)1eb~u1cb~u1ebCAw1cbCAw1ebCAu1cbCAu1ebB|,1cb
  B|,1ebANe1cbANe1ebZ)1cbZ)1ebtn1cbtn1ebNgn1cbNgn0GpbMwQpf3M;f0FcMwbQi3Ljq0A~hbm2At2l2Jl2Eu2|*2AVd
  2n2M*2u2A)2Aw2AGd2BYm2BNq2APp2Wy2AEn2AQv2A<2AHb2Fg2AGr2I%2B]g2ATn2ADx2V&2BTr2Ga2BTe2AXt2M:2AXu2A
  :2AQ$2BL:2ARz2|e2AQ&2BXa2AXe2Sk2Vo2Iy2H<2Gy2F,2AS&2Zt2_l2BS$2|d2Cs2Py2ASl2R$2AMf2Cy2A,2Kk2Ew2AD;
  2Hy2BQf2AF(2Sf2A*2Kt2Jd2Iw2Ze2W)2_t2Cc2BTp2BZp2FDu2GGx2GGg1FcwGGr3JJe1BS>1D,Cu1Gd1Dh1O:1G%w0+iGp
  bBB,ChSyAR,4PbAR,4SyB]a4PbB]a4Sy|(4Pb|(4SyIy4PbIy2AB:FeChAj2CpFeChAj2V=FeChAj2BsFeChAj2AB;FeChAj
  2AB:FeQsChAj2CpFeQsChAj2V=FeQsChAj2BsFeQsChAj2AB;FeQsChAj2AB:QsChAj2CpQsChAj2V=QsChAj2BsQsChAj2A
  B;QsChAj2vAdAj3Ls3BcAj2BliF>D&2HqAch3Anh3Hlw3C<Hlw2BsC<Hlw2AU$gCpCh4BsCh0D:ebABwA;1cbABwA;1ebABw
  F%1cbABwF%1eb^<1cb^<1ebCBm1cbCBm1ebCAi1cbCAi1ebABe1cbABe1ebABeaDh1cbABeaDh1bceC&4Ab1ebB&1cbB&1eb
  AAk1cbAAk1ebCr1cbCr1ebXk1cbXk1ebXkaBcAj1cbXkaBcAj1ebOa1cbOa1ebCnB*av1cbCnB*av1ebBna*1cbBna*1ebBn
  aEn*1cbBnaEn*1ebBna*gEn*1cbBna*gEn*1ebXtAh1cbXtAh1ebAhaCp*1cbAhaCp*1ebnaCb*In1cbnaCb*In1ebnaKl1c
  bnaKl1ebEd1cbEd1ebB=a*M=E:1cbB=a*M=E:1ebB=a^w1cbB=a^w1ebB=aB^,Dv1cbB=aB^,Dv1ebDla*M=E:1cbDla*M=E
  :1ebDlaEn*1cbDlaEn*1ebAa~b1cbAa~b1ebAGf~b1cbAGf~b1ebBpaEn*1cbBpaEn*1ebAW(1cbAW(1ebCCeB:1cbCCeB:1
  ebU(a*1cbU(a*1ebU(a*M=E:1cbU(a*M=E:1ebCB<1cbCB<1ebNj1cbNj1ebYz1cbYz1ebBCh1cbBCh0GpbAH:0D:cbE^q3S
  d3G_*3HKx3AGf1bceAGf1cbAH%3~w1ebKhBw1cbKhBw1ebKhC&1cbKhC&1ebKhBk3CaKhBk1cbCaKhBk1ebCaAh1cbCaAh1e
  bKhAa1cbKhAa1ebKhAb1cbKhAb1ebKhBo1cbKhBo0GpbBsCfFb2Gd2D;Ftf0D:ebBZn1cbBZn1ebCaBt1cbAhaEx)gPe1bIU
  =v1ebAzaE:1cbAzaE:1ebB*aAj1cbB*aAj5G$)3BtaG$)1ebCea^w1cbCea^w1ebC&a*1cbC&a*1eb]kF;1cb]kF;1eb]kE=
  1cb]kE=1eb]kIq1cb]kIq1ebBkaMd*1cbBkaMd*1ebBnaMd*1cbBnaMd*1ebAzaMd*1cbAzaMd*1ebAaaMd*1cbAaaMd*1eb
  AbaMd*1cbAbaMd*1ebBta)3CnB;q3H>Bk3AhaPe3ceu1bceDl1ebCaBn4Bo3CqaRp3H,3Ju1cbJu1ebFi1cbFi1ebla*1cbl
  a*1ebG)m1cbG)m1ebG)u1cbG)u1ebG)l1cbG)l1ebDzAR=n1cbDzAR=n1ebA_;Ci1cbA_;Ci1ebB*aG$)3Aba)3B:aG$)3Bw
  aD;*In1cbBwaD;*In1ebAbaD;*In1cbAbaD;*In1+febFsKhBk1cbFsKhBk3+btU(4+bAId1eb>BZxAb1cb>BZxAb1ebB]zA
  b1cbB]zAb0+yGpbeB*3C&3Dl0D:ebCnAoBt1cbCnAoBt1BGbbSou0GpbeBta*2cF*E=0D:bceCaA<1BGbbCnC&4B=3C<A<3u
  AO,3JrA<0I_pHAkbm3u2fE^<2bl3q3n2fBJf2bHy3V(3Nk3BIj2fD<2bOj3Rn3Pp3F~d3AWl3AH$3AK:3BDv3y3Lw3Jk3BEa
  3E<3Ko3Pu3Of3A~,3Iw3Hr3J&3BY>3Id3Hm2Bbfm4u4l4q4Ed2HXp_&3_(3BP>3GV:2fIiBJf0+dEcBKyJysF:4Ao3xMh3sZ
  ,4Hd3xAGy2F:w2AR;w2Wlw2H^uw0+gHVcbAt2C=2Bq2Cs2C$2C*2Cx2C;2Be2Di2Bi2A,2Aw2Du2B$2A*2Gt2Ml2Ni2Cy2I=
  2Ee2cm2A:2A$2A)2Ct2Bd2Aq2m2u2l2q2n2Jo2Mn2E%2Ym2Eu1Z;bCy3A:1bD=2Ez2D>2Eo2IiA:2JTrCt2Q>Aq2C|kE%1Z;
  bA$1I^$bA$1bGc1C)Jzw1tJzw1wLr2tLr0+iIHwfD<2Fr1bm2B&2u2Ck2l2Cv2DpAa3E>3Ah3Fu2q2Eu2Cj2n2Ed2Cr2At2C
  =2Bq2Ef2Cs2C$2C*2Cx2Fp2C;2D=2Ez2D>2E,2Eo2Be2Di2Bi2Eb2A,2Aw2Du2B$2Ep2A*2A:2A$2A)2D$2Ct2Fa2Bd2Aq2H
  f1IjfFPj1BbfB&3u3Ck3l3Cv3DpAa4E>4Ah4Fu3q3Eu3Cj3n3Ed3Cr1fE*2Gc1+iGl1tGl1BgB(2s2o2x2(2:2Ae2Am2Af2A
  r0+gFcALbBgB(3s3o3x3(3:3Ae3Am3Af3Ar2bm3l3At3A,3Aw3A$3Sv2fLd0ALbfAUlGc2GcE*2tGcE*2Gco3x3Ld2HZ,1^$
  Ry1Qe1AM,1fWs1F|xNt1bOa1BbfOa0BL$KkBgB(3s3o3x3(3:3Ae3Am3Af3Ar2bAt3C=3Bq3Cs3Bd3Ct3Ee3C;3Be3BKb3A,
  3Aw3Du3A*3Bi3B$3A$3A:3A)3Cy3Di3Aq3D$3C$3m3E=3u3Ed2BbIq3q3l3Eu3n2ChBWp3DMa4BWp2fAK%3IUe0IAdbAt2Bq
  2Cs2Be2Bi2A,2Aw2B$2A*2C$2Cx2C;2Bd2A$2A)2A:2Cy2Aq2_)2|d2Zl2HLq2m1Bbfu3l3q3Cj3n3Cr3Rv3ALt1IjfK,3Az
  3Aa3Bt1E*1+lIaw0R*BB;JEp2B~t2B~v2B~r2AF;2BYt2AS*2IBu2AF<2AF=2IBs2BYn2AF>2IBk2BYo2BQ&2GZ;2APu2HWg
  2HV>2BV=2IYm2F^f2F]>2IYi2IYo2HVn2FSm2IYq0+dF|&fHS)2BBq2GLm2JW*1bm2uGCw32Ck2l2AwDN=2CsGL)4H~f2q2C
  j2n2At3Un3Ps2Bq3Ps2Cs2C$3Ps2Cx2C;Ps2CxT%2C;2D=3T%2D>3T%2A,Ps2Be3Ps2Bi3T%2A,2Aw3Ps2B$3Ps2A*2A:2A$
  3CZf2A)2Cy2BdPs3T%32Aq1fBBqJCa1BbfJBa3JFr3JX,4GXr3B_r4GXx3B|v3ES;G|f3BVs1IjfGDj3HUk3BBe1HSu1kBYf
  1iBYf1ARlC](2GUu2GO:2CC&2HSt2GNo2GO=2AAf3AAf2BWj1CaARlBWj1+bHSx1BgB(2s2o2x2(2:2Ae2Am2Af2Ar1+eARl
  JE)JJi2F|i0AP=bPxEf3C*3Fp3Eo3Ep1fPxATe1GpbPxBYa1bSrADzC;4E%4Bq4Ef4Cx4Fp4D>4E,4Eo1SrADzBgB(4s4o4x
  4(4:4Ae4Am4Af4Ar1bSrADzHf4Bi4Eb4B$4Ep0+bDOhbm2u2l2q2Cj2n2At2C=2Bq2Ef2HEu2Cs2C*2DO>2Cx2Fp2HE)2Zm2
  HE(2Be2Di2Bi2Eb2HKw2A,2D>2Aw2HYh2Du2B$2Ep2G_u2A*2Vg2A:2A$2A)2D$2Fa2Bd2Aq1BbfB&3u3Ck3Rr3l3E=3n3Cj
  3Cr3Iq1IjfA:3A$3A)3Cy1+jbrBn3Bk3K,1IjfrK,1brBBv3Bo3Az3B=3Bz3Aa3Ah3AG(1IjfrA<4Bt1+cBgB(2s2o2x2(2:
  2Ae2Am2Af2Ar1+cEsAG$2Gl2tGl2EkGl0AP=b_oBq3C$3C*3Cx3Fp3C;3D=3Ez3D>3E,3Eb3A,3Bd3Aq3R,3E%1Gpb_oBYa1
  b_oMn3Ee3A$1_y_oBUb3H^n3FTr1,AIvHl3s3o1bAIvA$1fHS;SaCh2SrADzQ,4Q:1bZ)ARmC*4Ct0SrCCcbBsHy3CpHy3Bs
  V(3CpV(3BsBMd3CpBMd3BsNk3CpNk3BsWc3CpWc3BsOj3CpOj3BsRn3CpRn3BsId3CpId3BsSi3CpSi3BsJk3CpJk3Bsy3Cp
  y3BsLw3CpLw3BsE<3CpE<3BsOf3CpOf3BsKo3CpKo3BsPu3CpPu3BsPn3CpPn3BsIw3CpIw3BsGb3CpGb3BsHr3CpHr3BsJ&
  3CpJ&3BsQ=3CpQ=3BsHm3CpHm3Bsn3Cpn2NqADg2BbB&3u3Iq3l3q3n2NqGD<2BbAC*3JMn3]g3A|$3Oa3F(3P<2ChNqYb4B
  Ts4Lw4IW(2+y,BMp3BTs3ATb3HmFVd3AOgAOg0BQnBQdbq3n3C*3C;3D=3Ez3D>3E,3Eo3Ct3Fa2BbfCk4Cv4A_e4Cr4CVy2
  DOy2CZiGEi2AI&2LtAS%w2MmAS%w2BbfFr2E*0+kAB*LtJIv2CA%2AWk2JIt2CA$2AH$2+cEP;2EP:2BDu2EP,2EP*2BDv2+
  cBFf2BFc2E_f2BFa2Tg2BFe2+jDNg2DNm2DNk2DNh2DNj2DNi2DNl2+bVg2A~p2A~n2DGe2DGi2](2A~o0+bD:cbQaF&3mIA
  (3BAdq3Qaq3qa^w3BNvC&3H>BkaRp3AhaC<AOtAb5t>Bf5>Bh3A<aRp3AzaRp3OmaRp3BAdn5a*3B;na*3C<E=3CaE=a*6Bc
  *4nHQg6a*3IZ)Aa1bceAaaiK*1cbAa~,BJd3tAa3AaaRp3tAaaRp3H>Aa5aBh3A~iKc3laD;iK*4AjaD;iK*3AH*3CaAH*3l
  ak)3H,4aBsiBh6kBZ,3CdaBsiBh5CbkK*8gBsiBh8aBZ,3BzaD;iK*0GpDraC<Dr1bc^<3AhaC<AOtAb5>Bf3lak)0D:cbIG
  $Sx3Ljq3B;E=3CBz3C<F&0HxbceFi0D:cbTfG(aEx)3AWfG(aEx)3CaAaa>Bf0GpbcCaCi2kF$2iF$0+eBB(cbm3q3u3n3l3
  Bp3Bq3At3Qo3Jb3Nk3Lh3BI*3Aq3E&3G,3Hm3M(3AC(3A)3Ma3Kk3J&3H<3BOm3A*3Go3Gy3Iw3Fg3A,3AM>3AQb3Gq3F,3E
  <3Ga3AQ)3BXm3BXn3BXo3ASu3ASv3BXr3Bd3Ab3Iz3I%3Id3Jh3AU;3Bi3Be3Is3Fq3Jx3Kt3Jk3Le3BE<3ABp3AV%3AV&3A
  V)3AV*3AV,3B~*3Gt3Na3W=3AHy3AHz3CAv3Cy3Hv3I;3Ih3P*3CC>3A:0BQnBQdbBMo3ATb3ADy3APw3Aw3A,3DPf3AVx3G
  Ef3BS)3JDo3JVw3Pb3FXe3U;3u3HVe3C|z3FM&3F~b3H|*3B$3_g3ESv3FL&3ESc3DHv3BMoT$3ADyT$3APwT$3AwT$3A,T$
  3AVxT$3BS)T$3uT$2BbfHP&4F^=4C]z4J^i4IW>4JM<4DO$4AQ(2DOz2SdBK;2C^:BK;2+cBgB(3s3o3x3(3:3Ae3Am3Af3A
  r0+IOsR*BLnHM;2HM(2J_g2J_h2J_i2JK:2JK)2J_*2J_;2FA<2FA>2FA=2FBb2FY*2FY,2FY;2FY:2FY&2FY<2FY=2FY$2C
  _d2C_e1+eBLlHFh2HFf2AG;2IYp2B~t2B~v2JEq2B~r2JEo2JEr2BYt2IBl2IYk2IBm2IBr2IBq2IBx2IBw2BLx2GZ(2GZ,2
  IYj2GZ)2GZ%2AR*2HWd2HWa2AG,2AR)2AR(2BV<2B]:2IVb2IYl2IYn2IVd2AT)2B]*2B]=2B],2HS&2HS%2J^o2J^n2DQo2
  DQp2AG)2HVo2HVp0+GR;D:cF*FE$3Pk3FFq3FE%3FE&3CbAbBo3AUt0+m]$cF*SfAEw4Ya4ANo3AW%AEw3SfAXf0+fBJlbRc
  aBJy1NvGAgJQw1F*CDsRcRcAFb1bAIyOb2~)A;3ABh3E&3Gn3AD$3rJ(3N$3AVf2AIyAkf2GsaGsv4AGxv4IkgGsv6AGxv2A
  ;aAFb4AFr4APf2XpaIk2LfaIk2ABhaIk2E&aAPf2]jaIk2NdaIk2+bW)aIk2RcaIk2rGnaIk2GnaIk2AD$aIk2+bJ(aIk2+b
  EgaIk2LqaIk2+brEhaIk2EhaIk2+bAWgaIk2AStaIk2N$aIk2GsaIk2AVfaIk2]jaBJ*2XpaAFw2GnaAFw2EhaAFw1F*A;AD
  $0JqbA;AW*$d4rd2A~x$d3rd3;d3B%d2Zq$d3rd3;d3B%d2A~$$d3rd3;d3B%d2CAz$d3rd3;d3B%d2B|<$d3rd3;d3B%d2A
  Wj$d3rd3;d3B%d2CB;$d3rd3;d3B%d2BVn$d3rd3;d3B%d2BE>$d3rd3;d3B%d2BT:$d3rd3;d3B%d2AHh$d3rd3;d3B%d2B
  |:$d3rd3;d3B%d2BDq$d3rd2BC=$d3rd2BE:$d3rd2BDr$d3rd2BLb$d3rd2BY=$d3rd2Y:$d3rd3;d3B%d2Yk$d3rd3;d3B
  %d2BI$$d3rd3;d3B%d2BS%$d3rd3;d3B%d2FdACm$d4rd2BYz$d3rd3;d3B%d2GxaA%j$d6rd3ACo$d4rd4;d4B%d3BEq$d4
  rd4;d4B%d2A%AAv$d4rd4aFoj$d7rd1,vj3p2oAyj4p2xAyj4p4DaBjj6p2(Ayj4p2tAdAjp2oAyXbj5p2Bh2cG<j4p2AW*j
  1+qbK,$d3rd3;d3B%d2l$d3rd2E=$d3rd2Fn$d3rd2laFoj$d2Lx$d3rd2_pE=$d4rd3Fn$d4rd2q$d3rd3;d3B%d2CBrGCz
  _pA;C,;d7B%d1F*A%aFojaA;$d8rd7F;$d8rd7Fk$d8rd7l$d8rd7E=$d8rd7Fn$d8rd7q$d8rd8;d2CBr_pA%aFojaA;C,$
  d9A;C,rd9A;C,;d1bVnA%$d4rd4;d4B%d1F*A%aFojaB>$d7By$d7Ai$d7A;C,$d7A%$d2JiaB>$d4By$d4Dy$d4Ai$d4A;C
  ,$d4A%$d2J*aB>$d4By$d4Dy$d4Ai$d4A;C,$d4A%$d2O=aB>$d4Ai$d4A;C,$d4A%$d2B>aBy$d4Ai$d2ByaB>$d4Ai$d2D
  yaB>$d4By$d4Ai$d2HiaB>$d4By$d4Dy$d4Ai$d2IoaBy$d4Ai$d2JwaB>$d4By$d4Dy$d4Ai$d2G<aBy$d4Ai$d2P:aAi$d
  2F%aB>$d4Ai$d2KzaB>$d4Ai$d2ImaB>$d4By$d4Dy$d4Ai$d4A;C,$d4A%$d2HpaBy$d4Ai$d4A;C,$d4A%$d2GnaA;$d4B
  >$d4By$d4Dy$d4Fm$d4Ai$d4A;C,$d4A%$d2FmaB>$d4By$d4Dy$d4Ai$d4A;C,$d4A%$d2AiaB>$d4By$d4Dy$d4Ai$d4A;
  C,$d4A%$d2FdaB>$d4By$d4Dy$d4Ai$d4A;C,$d4A%$d2GxaB>$d4Ai$d4A;C,$d4A%$d2A%aB>$d4By$d4Dy$d4Ai$d4A;C
  ,$d4A%$d2W*aN*A;$d2GjaN*A;$d2A;C,aN*A;$d2Z%a^j$d4_j$d4On$d4Qg$d4Nn$d4N*A;$d2A%aFojaGjrd7Mqrd7Air
  d7Fdrd7A;C,rd7A%rd2JiaGjrd4Mqrd4Aird4Fdrd4A;C,rd4A%rd2J*aGjrd4Mqrd4Aird4Fdrd4A;C,rd4A%rd2O=aGjrd
  4Mqrd4Aird4Fdrd4A;C,rd4A%rd2ImaA;C,rd4A%rd2HpaA;C,rd4A%rd2GnaA;rd4Fmrd4Aird4A;C,rd4A%rd2FmaAird4
  A;C,rd4A%rd2AiaA;rd4Aird2FdaGjrd4Mqrd4Aird4Fdrd4A;C,rd4A%rd2A;C,aN*A;rd2A%aGjrd4Mqrd4Aird4Fdrd4A
  ;C,rd4A%rd4FojaB>;d7By;d7Dy;d7Ai;d7Gx;d2JiaB>;d4By;d4Dy;d4Ai;d4Gx;d2J*aB>;d4By;d4Dy;d4Ai;d4Gx;d2
  O=aAi;d2B>aBy;d4Ai;d2ByaB>;d4Ai;d2DyaB>;d4Ai;d2HiaB>;d4By;d4Dy;d4Ai;d2IoaBy;d4Dy;d4Ai;d2JwaB>;d4
  By;d4Dy;d4Ai;d2G<aBy;d2P:aAi;d2F%aB>;d4Ai;d2KzaB>;d4Ai;d2ImaB>;d4By;d4Dy;d4Ai;d2HpaBy;d4Ai;d2Gna
  B>;d4By;d4Dy;d4Fm;d4Ai;d2FmaB>;d4By;d4Dy;d4Ai;d4Gx;d2AiaB>;d4By;d4Dy;d4Ai;d2FdaB>;d4By;d4Dy;d4Ai
  ;d4Gx;d2GxaB>;d4Ai;d4N*A;;d2A%aB>;d4By;d4Dy;d4Ai;d4Gx;d4FojaAiB%d7GxB%d2JiaAiB%d4GxB%d2J*aAiB%d4
  GxB%d2O=aAiB%d4GxB%d2HiaAiB%d4GxB%d2J)aAiB%d4GxB%d2GnaFmB%d4AiB%d2FmaAiB%d2FdaAiB%d4GxB%d2A%aAiB
  %d4GxB%d2Z%aOnB%d4QgB%d4NnB%d2G<aA;C,$d4A%$d2F%aA;C,$d4A%$d2KzaA;C,$d4A%$d2HiaA;C,$d4A%$d2J)aA;C
  ,$d4A%$d2ByaA;C,$d4A%$d2B>aA;C,$d4A%$d2DyaA;C,$d4A%$d2IoaA;C,$d4A%$d2JwaA;C,$d4A%$d2J)aB>$d4By$d
  4Dy$d4Ai$d4Gj$d2HiaGj$d2IoaGj$d2JwaGj$d2G<aA;C,rd4A%rd2F%aA;C,rd4A%rd2KzaA;C,rd4A%rd2HiaA;C,rd4A
  %rd2J)aA;C,rd4A%rd2ByaA;C,rd4A%rd2B>aA;C,rd4A%rd2DyaA;C,rd4A%rd2IoaA;C,rd4A%rd2JwaA;C,rd4A%rd2J)
  aB>rd4Byrd4Dyrd4Aird4Gjrd2HiaGjrd2IoaGjrd2JwaGjrd2J)aB>;d4By;d4Dy;d4Ai;d2HiaGx;d2J)aGx;d2G<aAi;d
  2HiaB>B%d4ByB%d4DyB%d2J)aB>B%d4ByB%d4DyB%d2G<aAiB%d2P:aAiB%d2A;aYhrd5$d0HQtkEv1iEv0JqF*H|&A_%2BX
  %C]gC^a4C^b4C^d4C^e4C^f2IG<AAiJVn2AAiAAp2CZ:AAp2CZ;AAp2AAiC|bJV:2H^xIVj2IG=AAiJVqJVo2CZ,AAp2JAkJ
  Vp2H|(A_%2J*aB>aAi;d4ByaB>rd7;d6Ai;d4DyaAi;d4AiaB>;d6By;d6Dy;d2B>aAiaByrd7;d2ByaAiaA%rd6A;C,rd2H
  iaByaB>;d4B>aBy;d6A;C,rd4AiaByrd7;d6B>;d6Aird7;d2IoaByaByrd7;d4AiaAird2J)aByaAird7;d4B>aA%rd4Aia
  Dyrd7;d6Aird7;d2JwaByaA;C,rd4DyaAird7;d2G<aAiaByrd7;d6Ai;d6A%rd2F%aB>aAird4AiaAird7;d6A;C,rd2Kza
  AiaAird6A%rd6A;C,rd2ImaDyaAird7;d2HpaAiaByrd6Aird2FmaByaAird6A%rd6A;C,rd4B>aB>;d7rd4DyaAird7;d4A
  iaByrd7;d2AiaByaB>;d6Ai;d6A%rd4B>aBy;d6Ai;d4DyaB>;d6Ai;d4+cB>aDy;d2GxaAiaB>;d6Ai;d2FdaByaAi;d6A;
  C,rd4B>aAird7;d6A;C,rd4AiaA%rd6A;C,rd2A%aAiaAird7;d2JiaDyaA%rd2J*aB>aA%rd6A;C,rd4DyaA%rd6A;C,rd4
  AiaA%rd6A;C,rd2B>aAiaA%rd4ByaA;C,rd4AiaA;C,rd2HiaDyaA;C,rd2IoaByaA%rd2J)aByaA%rd2JwaByaA%rd2FmaB
  >aA%rd4AiaA%rd2A%aByaA%rd4B>aA%rd4AiaA%rd2AiaAiaA%rd2HpaAiaA%rd2FdaByaA%rd2HpaAiaBy;d2FmaByaAi;d
  2F%aAiaA%rd2GnaAiaA%rd2FdaB>aBy;d2AiaDyaA%rd2FmaB>aAi;d2GnaAiaAird2FmaB>aAird2FdaB>aByrd2B>aByaA
  %rd2ByaB>aA%rd2AiaB>aA%rd2ImaAiaA%rd2JiaByaA%rd2GnaAiaAi;d2F%aB>aAi;d2IoaAiaAi;d2HiaDyaA%rd2FdaB
  >aA%rd2+hIG,CZ<2+,BZlCB(MrBMrCuf$d2H]uCB(MrBMrCuf$d2C]h$d2CZx$d2G^m$d2IG;$d2H~e$d2]u$d2CCn$d2BZl
  $d2BZm]uCCn2F|z0IBgf0JqF*DIkC_aC^>2I^eCyJAe2C~vCyF|y0~zIIz1ILw1INo1INz1IN=1IOj1IOu1IO*1IPe1II$1I
  I>1IJk1IJv1IJ,1IKf1IKq0ASjdFfAdDh4L<Dh5D,Cu4Gd4O:4Hlw4G%w4k%TyAs4i%TyDJo4BcTh0+gFcF*kAo2iAo1tBfk
  Ao3iAo1C>kAo2iAo1BCjC>1F*kAop2iAop1BfkAop2iAop1C>kAop2iAop1BCjC>p1MwAHpkAo3iAo0ASjdFfAdovAOu4KbE
  $4EaE$4BsC:4RaBsC:4kEv4iEv4kHjAs4iHjAs4kKuIcAs4iKuIcAs4kzTyAs4izTyAs4ktD&As4itD&As4kD&As4iD&As4k
  F>As4iF>As4k%F>As4i%F>As0BZ:v0%BZ:v0ASjdFfAdkAvAs4iAvAs0NhUd0BBtUd0RaUd0tRaUd0NhBsC:0BBtBsC:0RaB
  sC:0cDh1L<Dh1D,Cu1+bO:1Gd1G%w1Hlw1KbE$1kEv1iEv1kHjAs1iHjAs1kKuIcAs1iKuIcAs1Dbf1S$1Ei1Akf1AC)1Djf
  1Dnf1Ftf1+bJgIe1Vkf1|vf1^eH)0+eJqYh$d1AHgaYhj1^j$d1DvFGx1_j$d1+bOn$d2B%d1Qg$d2B%d1Nn$d2B%d1Z%$d2
  B%d1Wx$d2B%d1bFo$d2A;aSej$d6rd4Foj$d6rd2FkaFoj$d6rd2A;aFop$d6rd2A%aFoj$d6rd6;d6B%d2A;$d3rd2Ji$d3
  rd3;d3B%d2J*APg$d4rd3$d3rd3;d3B%d2O=$d3rd3;d3B%d2B>$d3rd3;d3B%d2By$d3rd3;d3B%d2Dy$d3rd3;d3B%d2Mx
  $d3rd2W*$d3rd2Gj$d3rd2Mq$d3rd2Hi$d3rd3;d3B%d2J)$d3rd3;d3B%d2Io$d3rd3;d3B%d2Jw$d3rd3;d3B%d2G<$d3r
  d3;d3B%d2P:$d3rd3;d3B%d2F%$d3rd3;d3B%d2Kz$d3rd3;d3B%d2Im$d3rd3;d3B%d2Hp$d3rd3;d3B%d2Gn$d3rd3;d3B
  %d2Fm$d3rd3;d3B%d2Ai$d3rd3;d3B%d2Fd$d3rd3;d3B%d2Gx$d3rd3;d3B%d2Fk$d3rd2A;C,$d4rd2A%$d3rd3;d3B%d1
  F*FmaA;aSej$d8rd6Foj$d8rd7p$d8rd5$d5rd0+cB(~*AQxI(0+bBHlHlw1Grw1Dbf1Vkf1|vf1S$1Rg1kEv1iEv1Ei1Akf
  1Dh1AC)1D,Cu1Ie1BgB(2s2o2x2(2:2Ae2Am2Af2Ar1Gd1O:1Djf1Ftf1Dnf1G%w1^eH)1D:ebm4Ce4B*4Bw4q4C&4Bk4Bt4
  u4Cq4Bn4Ah4A<4Az4n4B=4Dl4Aa4Ab4Bo4l4Bp4Ci4Cd4Bz4B:1kAvAs1JgIe1iAvAs1CfFb1BsC:1C(Fb1D:cbm4Ce4B*4B
  w4q4C&4Bk4Bt4u4Cq4Bn4Ah4A<4Az4n4B=4Dl4Aa4Ab4Bo4l4Bp4Ci4Cd4Bz4B:1kHjAs1AdC:1iHjAs1Bf1k%Ev1i%Ev0BJ
  bL<D,Cu1kF>As1iF>As1L<Dh1Pq>v2bIh3cm4u4l4q4n4A:4Fn4Gb4H&1_kBW:K=w1Pqbm3u3l3q3n3At3Jd3Jl3Jc3Hy3Bd
  3I%3Jh3Iz3Id3Be3Kt3H&3Fq3y3A,3F,3Ga3Gq3E<3Aq3G,3M(3E&3Hm3A*3Gy3Fg3Go3Iw3A:3Fn3Gb3A$3Lp3Iy3Kp3Hr3
  Cy3Az2Q>K=w2ATlK=w1R*Ry2bTx3AG*3AOd3T;3AEs3AEt3U*3AG;3Ul3AF;3AF<3AF=3AF>3AS)3AS(3AF:3T)3Uj3AG,3A
  Fg3Us3AG:3R;3Ro3AG)3S<3Tw3U%3Uh3Tp3+dm3F;3A:3~;3^s3q3+cAXn3Ly3n3Cy3AW)3E=3+cGb3l3AW;3Hv3I;3Fn3+c
  Rv3Hb3u0+dBHlBBsf1AFnf1Dkf1C>1XtAj1~=f1AXbf0+bBJbFGpBaAd1Alh1Bvh1<h1Bjh1zAv1%Ax0+kF_$A_<A_,2Ib2J
  Cj0HPbBYeRl0BYeRl0+cBN*CeLtA~dm3DAmq3DAdu3DA<n3C~xl3A|;Bi3DAtIs3A~cJx3C~%Jk3DAzLe3DA*Cx3DAuOs3+b
  DAkPp3DBbV$3DBnAt3DAsJc3DBdJd3DBgHy3DBrJl3DBqA*3C~$Go3DBjGy3C~&Iw3C~=Fg3A~bA,3C~>Gq3DAfF,3DA$E<3
  DA(Ga3A|=Aw3DBiEh3DAnEw3C~yKo3DAyNy3C~(Jo3DBoAFs3C~;|&3DAhAFt3+bDA;A$3DAcKp3DA%Lp3A|<Hr3DAbIy3DA
  gBd3A~eIz3DApI%3C~zId3DA,Jh3DA:Be3A|>Fq3DAlKt3A~ay3DBfH&3DA&Cy3DBlHv3DAoI;3DAqIh3+bC~)Ee3DBkI<3+
  bC~:Pc3DAaAIr3DArCMj3DBuCr3DBhALs3DByE_c3DAwAEz3DAeHZj3DA=HZh3DBmH|u3DAiH|v3DBeICn3DBcJAd3DBw~u3
  DBzo2+c,C~*3C~,3C~<3DAj3DAv3DAx3DA)3DA>3DBa3DBp3DBs3DBt3DBv3DBx2+;_dDB$Je3DB%U>3DB&AK<3DB(FAq3DB
  )GV,3DB*IZk3DB,BGm3DB:AFy3DB;ISl3DB<FQ%3DB=IXb3DB>BAq3DCa^f3DCbDKb3DCcAW<3DCdDF)3DCeBUk3DCfIXu3D
  CgEMe2ZgDChGCd3DCiGB<2_dDCjAE)3DCkAIc3DCl2ZgDCmC_m3DCnGX%2_dDCoDJ$3DCpACp3DCq3DCrCC,3DCs3DCt3DCu
  Fx3DCv3DCw3DCx2ZgDCzJJr2_dDC$3DC%3DC&AKd3DC(3DC)3DC*FJs3DC,C_u3DC:3DC;3DC<3DC=3DC>3DDa3DDb3DDc3D
  Dd3DDeAPz3DDf3DDgQ;3DDh3DDi3DDj3DDk3DDl3DDm3DDn3DDo3DDp3DDq3DDr3DDsACz3DEbFGg3DEeA~l3DEjB^y3DEkh
  3DEl3DEmI_i3DEn3DEo3DEpJWu]=3DEq]=3DEr]=BHg3DEsAIb3DEt3DEu2ZgDEvES:2_dDEw3DEx3DEz3DE$3DE%3DE&EPq
  3DE(3DE)3DE*3DE,3DE:3JSnDCy4DDt4DDu4DDv4DDw4DDx4DDy4DDz4DD$4DD%4DD&4DD(4DD)4DD*4DD,4DD:4DD;4DD<4
  DD=4DD>4DEa4DEc4DEd4DEf4DEg4DEh4DEi4DEy4DE;0+fCYxMmIbC:3v1Oiw1+eDbs2o2x2(2:2Ae2Am2Af2Ar2Cc2E)2I)
  2Kd2F)2K;2Fy2L*2Fh2sAp2oAp2xAp2(Ap2:Ap2AeAp2AmAp2AfAp2ArAp2sA(2oA(2xA(2(A(2:A(2AeA(2AmA(2AfA(2Ar
  A(2CcA(2E)A(2I)A(2KdA(2F)A(2K;A(2FyA(2L*A(2FhA(1+dCCxAAxAH,2RzUw2WmUw2N,Uw2AChUw1ALpZfRzUw1BN<Zf
  RzUw1ZfWmUw2N,Uw0HxCYgC|;sF:4Ao4ALo3:3F)3:Ap4A(3F)A(3:Wz3CcWz3F)Wz3sApWz3:ApWz3sA(Wz3:A(Wz4Uu3Cc
  Uu3F)Uu3sApUu3:ApUu3sA(Uu3CcA(Uu3F)A(Uu3CcAPx2FRjsHW=2]ds2AM:s2ALzo2]do2EMioBEy2ALzoBEy2AWc:3Cc4
  Iid2AM:Cc2GX:Cc2]dCc3I)2AWcF)4Iid2AM:F)2]dF)3sAp3xAp2ALz:Ap2AWc:Ap2]d:Ap2DM&:Ap2HA):Ap2]dsA(3:A(
  2EQ<:APx2I]bF)APx1sAof4Iid1oSsf1xMhf1CDof1JAyf1ALof1HPff1oAE&f1xAE&f1(AE&f1:AE&f1GYaf1GItAAxf1GN
  xf1HQ:f1JYxf1C_;f1C_yf1FNkf1JIaAAxf1B(f1sF:f1IU>f1F_hf0HH:f0+b|<IQcf1JNbf1IPuf1BZ;f1ESyBZ;f1IU&f
  1EQ>f1H^%f1IP*f1E^xf1Mrf1DN(f0C|f,0+dHx,KsHh0+AjHVdABnfBVm3HXeJz3JBeJz3DMp3AJ<3U>3ACz3FJw3JEh3h3
  Xr3ATt3AKf3GVl3GWp3ATe3BN&3BAw3BBiBWn3ET<3DUm3IV>3DUl3DHc3ATu3Fx3FSe3DKdK*3Oh3AFy3BFj3BEx3JJj3Xn
  3BWnQ;3Sw3HS>3AS=3GNa3AE;Oc3BG:3FNo3I]a3cAI;3RaDFu3FcMd*0+CqGPlbm2q2Ce2DHs2Bk2Bw2u2Ci2B:2U$2Cq2B
  n2Dl2Ah2A<2Az2AEh2|g2l2B=2ADm2Aa2Ab2Bo2AWi2F(2Ea2Bt2Cd0+dDMtbm2HRs2Bw2Ah2JN<2Aa2GLo2AIr2Dl2Ce2A<
  2n2EO%2Bo2Wo2IR)2Ab2DK,2l2|g2Cd2Az2JIq2B=2AG(2u2q2JOa2Bn2GBb2HBx2Cv2Bk2FJb2AUt2IZf2K,2Ck2DK:2AWi
  2JN=2E>2APi2GWw2GWx2GWy2GLp2^q2JN>0+pHwFAlU)w2Bgs3o3x3(3:3Ae3Am3Af3Ar2DbCc3E)3I)3Kd3F)3K;3Fy3L*3
  Fh3sAp3oAp3xAp3(Ap3:Ap3AeAp3AmAp3AfAp3ArAp0+eDzPobm3L$3Jc3Is3q3Lx3I<3E&3Fj3u3At3It3Kb3Ea3Kc3n3Eh
  3Fz3Jl3L:3Pj3Fq3l3E~l3AR$3AN>3Qi3FAu3H*3Ck3Cv3FA(2Qxs3:3Cc3F)2+jbLy3BTiNa3B^uNa0FNdbCZl2DFo2FL,2
  EO=2CZo2H]t2F|o2FPo2JDk2E~h2GH:2GJt2GVr2HA&2F|:2JNz2HR:2Fh2H|,2IHv2JB:2JW<2FD,2F^n2BKe2HQz2ArAp0
  +fDzBVvbF(3S,3FJg3BEr3q3KAv3E_h3AIm3E_i3u3GGj3GL(3GXy3BSj3JT$3HUc3IAa3~h3Sr3l3DO:3IS=3ISk3J_z3P,
  3n3Ed3Qi3Aq3JIl3JQ=3~>3AIg3Sx3K&3Fn3A:3AC*0FcDzBVvbF(4BEr4AIm4BSj4~h0+fJMubC]j2Ju2FJm2C=2Jj2Hm2I
  h2N<2FW&2W)2Rc2Gn2Gs2M)2J(2ERy2Eg2Pd2IHb2F%2Ny2BZi2H^q2H~d2JC(2Kz2y2u2l2AUs1+bMmX:0DzBVwfm3u3l3A
  t3Jl3Bq3Lh3Mn3C$3Cx3Tt3Be3H&3Bi3Jx3Le3Di3Aw3B$3E%3A,3Ga3A*3Gy3Fg3A:3D$3Sv3A$3Iy3A)3Bd3Ee3Ct3Fa3A
  q3+eC~b3C~c3C~d3JZf3EPa3EPb3DFf3DKw2MmX:2Dbs3o3Cc3E)3Ap0+AeERlebCbu4q4m4N=4n4Ed3D;u4q4m4N=4n4Ed3
  Oa3|q3P*3]q3Bt3Sk3Xn3]b3X(3AA<3Y&3AN:3BHz3Qi3U=3Ti3~n3Pj3AAb3Kc3AIo3L:3It3Kb3Ea3Om3|l3AL&1cbCbu4
  q4m4N=4n4Ed3D;u4q4m4N=4n4Ed3Oa3|q3P*3]q3Bt3Sk3Xn3]b3X(3AA<3Y&3AN:3BHz3Qi3U=3Ti3~n3Pj3AAb3Kc3AIo3
  L:3It3Kb3Ea3Om3|l3AL&0ISgbHUf2B~;2GEz2Vo2JDe2Id2I^*2BB=2J^f2FXg2DH%2EQp2FJf2JT(2JDb2CEk2Zf2GAh2J
  Xj2FPh2GOe2G]i2F^l2BFp2El2CYs2Dd2CC,2Mf2N=2ICp2Eg2ABv2CZb2Tq2Ac2HO<2HQe2AE)2C~p2C_l2B<2AIu2AB)2C
  _%2X>2BKl2J^w0HQxbA;2B$2Be2Cx2Mn2C=2EQy2A$2Bd2IS$2Eb2BBn2Bq2E%2ASs2BLq2GJf2GZ>2HK<2Fk2Aq2A:2m2q2
  u2n2l2B&2Eu2Ed1+cBgB(2s2o2x2(2:2Ae2Am2Af2Ar0+gHQwebm3Cj3F%3N=3BA%3C*3BFr3q3BFx3Aq3BKi3u3At3BFs3A
  Oo3A)3A*3A,3n3BUf3Aw3BFt3Bd3Ct3Be3BFu3Gt3BFv3Ml3Eb3l3Cy3C=3Ef3Ee3I=1+ecbm3Cj3F%3N=3BA%3C*3BFr3q3
  BFx3Aq3BKi3u3At3BFs3AOo3A)3A*3A,3n3BUf3Aw3BFt3Bd3Ct3Be3BFu3Gt3BFv3Ml3Eb3l3Cy3C=3Ef3Ee3I=0+eE~obm
  2L$2Rj2H*2Is2AEo2^k2Rr2q2Oo2Qo2AMw2E&2u2Os2Jc2Ma2GN&2Go2Gq2A,2T>2n2Eh2AFs2Kp2BY<2Iz2Fz2Fq2Fj2l2L
  x2]o2Bz2I<2Lz2Kf2FLm2AN>0+iDM,CZ=bC]l3Xp3AMv3BDk3ALu3J~<3BGp3KAu3JBb3C*3J_t3I=3F|b3Ct3BNf3F_;3JY
  y3E_d3S:3F~e3GCf3GPp3FRr3H]z3C^u3DP&3H,3EMb3BP<3|%3HIk3E_j3IR,3F|*3Dd3JKe3FEa3E_g3BBz3Zr3FLy3AFz
  3IR$3JSv3JE;3B]m3F|q3EMa3BBn3J^d3AR:3GFk2+lDQyw0JTkebm3](3L$3Rj3H*3Is3^k3Rr3q3Oo3Bq3+bAq3R,3u3BK
  w3Os3At3A)3Hf3Go3Gq3T>3n3Eh3Jo3Kp3+bIz3Fz3Fq3Fj3l3Lx3]o3+bBz3I<1+bcbm3](3L$3Rj3H*3Is3^k3Rr3q3Oo3
  Bq3+bAq3R,3u3BKw3Os3At3A)3Hf3Go3Gq3T>3n3Eh3Jo3Kp3+bIz3Fz3Fq3Fj3l3Lx3]o3+bBz3I<0+A(BN*mfCV(3CV)3C
  V*3CV,3CV:3CV;3CV<3CV=3CV>3CWa3CWb3CWc3CWd3CWe3CWf3CWg3CWh3CWi3CWj3CWk3CWl3CWm3CWn3CWo3CWp3CWq3C
  Wr3CFc3CWs3CWt3CWu3CWv3CWw3CWx3CWy3CWz3CW$3CW%3CW&3CW(3CW)3CW*3CW,3CW:3CW;3CW<3CW=3CW>3CXa3CXb3C
  Xc3CXd3CXe3CXf3CXg3CXh3CXi3CXj3CXk3CXl3CXm3CXn3CXo3CXp3CXq3CXr3CXs3CXt3CXu3CXv3CXw3CGi3CXx3CXy3C
  Hf3CXz3CX$3CX%3CX&3CHs3CX(3CX)3CX*3CX,3CX:3AZz3AZ$3AZ%3AZ&3AZ(3AZ)3AZ*3AZ,3AZ:3CMm3CMn3AZ;3AZ<3A
  Z=3CMp3CMq3CMr3AZ>3A]a3A]b3A]c3A]d3A]e3A]f3A]g3A]h3A]i3A]j3A]k3A]l3A]m3A]n3A]o3A]p3A]q3CMt3A]r3A
  ]s3A]t3A]u3A]v3A]w3A]x3A]y3A]z3A]$3A]%3A]&3A](3A])3A]*3A],3A]:3A];3A]<3A]=3A]>3A^a3A^b3A^c3A^d3A
  ^e3A^f3A^g3A^h3A^i3A^j3A^k3A^l3A^m3A^n3A^o3A^p3A^q3A^r3CNy3CN$3CN&3CN)3CN,3CN;3CN=3COa3COc3COe3C
  Og3COj3COl3COn3COp3COr3COt3COv3COx3A^s3A^t3A^u3A^v3A^w3A^x3A^y3A^z3A^$3A^%3A^&3A^(3A^)3A^*3A^,3A
  ^:3A^;3A^<3A^=3A^>3A_a3A_b3A_c3A_d3CQ<3CQ=3CQ>3CRa3CRb3CRc3CRd3CRe3CRf3CRg3CRh3CRi3CRj3CRk3CRl3C
  Rm3CRn3CRo3CRp3CRq3CRr3CRs3CRt3CRu3CRv3CRw3CRx3CRy3CRz3CR$3CR%3CR&3CR(3CR)3CR*3CR,3CR:3CR;3CR<3C
  R=3CR>3CSa3CSb3CSc3CSd3CSe3CSf3CSg3CSh3CSi3CSj3CSk3CSl3CSm3CSn3CSo3CSp3CSq3CSr3CSs3CSt3CSu3CSv3C
  Sw3CSx3CSy3CSz3CS$3CS%3CS&3CS(3CS)3CS*3CS,3CS:3CS;3CS<3CS=3CS>3CTa3CTb3CTc3CTd3CTe3CTf3CTg3CTh3C
  Ti3CTj3CTk3CTl3CTm3CTn3CTo3CTp3CTq3CTr3CTs3CTt3CTu3CTv3CTw3CTx3CTy3CTz3CT$3CT%3CT&3+jCT(m3CT)Ce3
  CT*Bw3CT,q3CT:C&3CT;Bt3CT<Cq3CT=Bn3CT>Ah3CUaGI>3CUbGJa3CUcGJb3CUdGJc3CUeCi3CUfCd3CUgBz3CUhFi3CUi
  CX=3CUjDGd3CUkEPy3CUlFB&3CUmOs3+kCUn3CUo3CUp3CUq3CUr3CUs3CUt3CUu0+yGpbceB&2N*I*Gd3AoI*Gd2cF;3eCe
  3Cea)3+bTfG(5aEx)6Ir3ABmG(3BwaDv5)6gDv3Cnq3FsCnB;q3AL<G(3BX)Fx3eBk3Bka)3eBka)3Bta*3eBt3^<a)3M$Cq
  a*g)3BOjG(3BOuG(3AhaPe3eAhaPe3AhaEx)gPe3AO$4aEx)3CaBz5aPe3na*3eE=3FsFi3Dl3CaAaaCbK*8gEx)3AaaDv5V
  p3eAa3B|*G(aIr3AWfG(5aEx)3AHjG(3BoaEx)3Bpai)3+beBz2G)Cua*2CnG)Cua*2AJkPg2AK=Pg2BNkPg2A_)Pg2ExPga
  Ex)2cAbaIr0+A*EMfLtm2q2u2n2l2Cx2+cPp2+bAt2Jc2Jd2Hy2Jl2A)2Ma2Kk2J&2H<2A*2Go2Gy2Iw2Fg2A,2Gq2F,2E<2
  Ga2Aw2Eh2Ew2Ko2Ny2A$2Kp2Lp2Hr2Iy2Bd2Iz2I%2Id2Jh2Be2Fq2Kt2y2H&2Cy2Hv2I;2Ih2+bMn2]o2+dEe2+cPc0F^;C
  _jbKv3Kw3Lf3Qf3E&3Fk3Nd3L;3Q)3Mp3Lk3L>3J(3Eg3Lq3Ob3Eh3Mj3Uk3N$3Gs3Lv2+bIaf2Dbs3o3x3Cc3E)3sAp4A(3
  CcA(0HSebKv2Kw2Lf2Qf2E&2Fk2Nd2L;2Q)2Mp2Lk2L>2J(2rEg2Eg2Lq2Ob2Eh2Mj2Uk2N$2Gs2Lv1JmAMb1H=AMb1Dbs2o
  2x2(2:2Cc2E)0HAibrKv2Kv2rKw2Kw2Lf2Qf2rE&2E&2Fk2Nd2L;2Q)2rMp2Mp2rLk2Lk2rL>2L>2rJ(2J(2rEg2Eg2Lq2Ob
  2Eh2Mj2Uk2N$2rGs2Gs2Lv1+iDbs2o2x2(1ELqDb(1Db:2Cc2E)2sAp0+AkFQkbKv2Kw2Lf2EPg2E&2Fk2CEd2L;2Q)2Mp2L
  k2L>2J(2Eg2Lq2A|,2Eh2Mj2Uk2+bGs2Lv1+fDbs2:2Cc2E)2sAp0HVvbC]a2Xp2FJl2EQ=2E&2AW,2J~$2BJo2W)2Rc2Gn2
  GK,2J(2Eg2IPt2F%2Eh2BZi2ASt2IC(2Gs2Ks1Dbs2Cc2E)2sAp2o2x1+dMmIb0GPmbm2Ce2Bk2Bw2q2Bp2u2Bz2Bn2Ah2A<
  2Az2n2Aa2AG(2Bo2l2C&2Dl2Ab2AWi2F(2Ea2AO>2|g2B*1+fI*w0+A$GX)FShbm3q3u3n3A:3Cy3B$3DE<3Aw3A*3A,3BR&
  3Gq3BSg3A$3BXw3A)3C=3R,3Bd3BZh3Iz3At3Jo3Be3B|q3Fq3B|;3y3Bi2,JS$3JS%1EL*bm3q3u3n3A:3Cy3B$3Aw3A*3A
  ,3Gq3A$3A)3C=3R,3Bd3JrBd3Iz3At3Jo3Be3Fq3y3Bi2+eJyOlQ<3sAo2_yICg3F^*2Dbs3o3x3(3:3Ae3Am3Af3Ar3Cc3E
  )3I)3Kd3F)3K;3Fy3+csAp3oAp3xAp3(Ap3:Ap3AeAp3AmAp3AfAp3ArAp3sA(3oA(3xA(3(A(3:A(3AeA(3AmA(3AfA(3Ar
  A(3CcA(3E)A(3I)A(3KdA(3F)A(3K;A(3FyA(3L*A(3FhA(3sApA(3oApA(3xApA(3(ApA(3:ApA(3AeApA(3AmApA(3AfAp
  A(3ArApA(2JysJJ%3oQ<3xQ<3(Q<3:Q<3AeQ<3AmQ<3AfQ<3ArQ<3CcQ<0GD*bm1Bbfu3l3DpAa3+bq3n2+fMbw1ftBhp2D<
  2Fr1bAt2C=2Bq2Ef2+bC$2C*2Cx2+bC;2D=2Ez2D>2E,2Eo2Be2Di2Bi2Eb2A,2Aw2Du2B$2Ep2A*2A:2A$2A)2D$2Ct2Fa2
  Bd2Ee2Aq2AOe2JI(2CA(2JSx1+cfAjj2DM:2vp1+eE*1Bgs2o2x2(1DbCc2E)2sAp3A(1JysAo1+hEsv2cAx2Ax2X$Aj2GVo
  2AD<2Gl2tGl2BN,0+hDzEtA|kbE&4L>4L;4J(4Uk4Fk4Gs4N$4Kw4Lv4ATd4Lk4Eg4GD;4Mj4Lq4Oo4A;4A|,4ERx4Lf4Qf4
  FLp4Q)4CEd4ER$4Mp4JC*4JDa3Dbs4F)3BTvTs1EcA|kbGx4Fm4By4Ai4Hp4Fk4FAw4Gj4Ji4J*4FAv4Gn4Fd4Dy4Io4FAx4
  Im4A;4F%4Jw4FKb4Mx4Kz4G<4Mq4W*4A%4O=4P:3Dbs4Cc4E)0+,GVqbKv2Kw2A~*2Lf2FL$2Qf2E&2Fk1fJ:1bNd2KAq2F|
  )2F~c2L;2Q)2Mp2Lk2JYt2BMb2L>2ER%2JC&2J(2Eg2Lq2Ob2CV%2Eh2Oo2Mj2Uk2JZb2H]=2N$2Gs2IYy2Lv1J;wj3p1+eD
  bs2:2Cc2E)2sAp1EsDo2AMb2tvXdv2vXdv32oAy2C:Ry0+jC~mbm2B&2AAk2CVw2F(2A_f2F;2A_p2q2Eu2n2Ed2u2Ck2l2C
  v2Jc2]o2CDd2JZj2Qo2AMs2Kf2Rj2Os2Fq2Fj2Is2^k2~r2Eh2Oo2L$2AAz2BSr2HE$2HEz2Gq2AQ,2HHo2Go2FTw2J|p2Ly
  2Lx2Kp2Ma2Iz2I<2Fz2Lz2IUf2IYx2E&1+dJ;w0~ooAyA&svEs0coAyA&svEs0C%oAyA&svEs1svA&oAyEs1oBYwA&sBhEs1
  sBhA&oBYwEs0F_uHThbKv3Kw3Lf3Qf3E&3Fk3Nd3L;3Q)3Mp3Lk3L>3J(3Eg3Lq3Ob3Eh3Mj3Uk3N$3Gs3Lv2+cDbs3o3x3(
  3Cc3E)3sAp4A(1BU)bKv3Kw3Lf3Qf3E&3CCq3Nd3L;3Q)3Mp3Lk3L>3BQp3Eg3Lq3Eh3Mj3Gs3Lv2+fDbs3o3x3(3Cc3E)3s
  Ap4A(0HZcBU)bKv3Kw3Lf3Qf3E&3CCq3Nd3L;3Mp3Lk3L>3BQp3Eg3Lq3Eh3Mj3Gs3Lv2+hIaw2CaIaw2(AyaEj5v2+mDbs3
  o3x3(3Cc3E)3sAp0+BeDzJJpbGzm3Ham4F;3Gzu3Hau4q3Gzn4E=3HaE=3GzRe3HaRe3GzA_n3HaA_n3GzAAg3HaAAg3GzA_
  q3HaA_q3GzXg3HaXg3GzCYv4^t3Ha^t3GzOa3HaOa3GzA_u3HaA_u3GzA_r3HaA_r3GzBUe3HaBUe3GzRf3HaRf3GzCYy4E~
  w4Kb4F(4Xh3HaXh3GzAB&3HaAB&3GzAB%3HaAB%3GzYc3HaYc4N>3GzOm3HaCYz3GzAB(4ARa4ANg4^r3Ha^r3Gz]y3Ha]y3
  GzANr3HaANr3GzARd3HaARd3GzAI)3HaAI)3GzCY$4Mr4CY&4El3HaEl3GzKc3HaKc3GzH)3HaH)3GzA_t3HaA_t3GzAE:4D
  F;1+ArFXhebm4B&4ALu4A_*4^r4AB%4BFm4BFn4g4q4AKcq4Eu4Qi4BFo4BFq4Qj4u4Ck4BFy4Yb4AAh4CBx4It4BF%4Kb4E
  a4Yc4n4Ed4AEvE=4AGeE=4BUd4AB(4BF)4L:4D;L:4Pj4BGh4Nj4AB&4BGj4Ya4l4Cv4AEvIq4AGeIq4AL%4^t4BGq4BF<f4
  AH:2+ncbm4B&4ALu4A_*4^r4AB%4BFm4BFn4g4q4AKcq4Eu4Qi4BFo4BFq4Qj4u4Ck4BFy4Yb4AAh4CBx4It4BF%4Kb4Ea4Y
  c4n4Ed4AEvE=4AGeE=4BUd4AB(4BF)4L:4D;L:4Pj4BGh4Nj4AB&4BGj4Ya4l4Cv4AEvIq4AGeIq4AL%4^t4BGq4BF<f4AH:
  2+hDbs3:3Cc3F)3sAp4A(0FP<BY&bm3B$3Aw3Be3D=3Cx3C$3Aq3C=3E%3Bi3D>3A$3Jp3Ee3Bd3Ct3At3Bq3A)3A*3A,3Cy
  3BMfCy3A:3BMfA:3Cs3C;3D$2Bbm3u3l3q3n2wIG%3A,GEd2fFQc3JAq3JA%3JBd2+iBgB(3s3o3x3(3:3Ae3Am3Af3Ar0+G
  &ID<Bgs2o2x2(2:2Ae2Am2Af2Ar1DbCc2E)2I)2Kd2F)2K;2Fy2L*2Fh2sAp2oAp2xAp2(Ap2:Ap2AeAp2AmAp2AfAp2ArAp
  1JysAo3F:3N,2oSs0+bJ^ybE~v2L$2Eh2AR$2Fj2Iz2^a2DPh2DPa2R,2Mn2Mx2AIl2A$2Sm2Ee2Cx2AGx2Gs2Io2Jw2Be2I
  <2BGp2JY$2E%2D$3Iid2Hp2Gn2GD$2Yk2Fm2AEf2Eg2~w2Fk2|q2AL&2FQo2AAa2Nj1+bFcFow2Sew1BKjw1+cbFmavj2AAa
  aCfj0+BcDzAUibKv3rKv3Kw3rKw3Lf3E&3rE&3Fk3Nd3L;3Mp3Lk3L>3J(3Eg3rEg5aAdDv3Lq3Ob3IiOb3Eh3Mj3rMj5aAd
  Dv3IAt3Gs3Lv3rLv5aAdDv2Dbs3o3x3(3:3Cc3E)3I)3sAp2JysAo2F*C~u0+iAUibKv2Kw2Lf2E&2Fk2Nd2L;2Mp2Lk2L>2
  J(2Eg2Lq2Ob2Eh2Mj2IAs2Gs2Lv2FEx2BNw1TrGs1Fcvp2oAyp2vj2oAyj2Kaj3p2)j3p2Cb)p2N$p2*p1Dbs2Cc2E)2sAp1
  EsoAdAAw5aAy2Axav2oNeaAy2AoAxav0+wDzJOfbKv3Kw3FMd3Fk3Nd3rL;3Mp3Lk3L>3J(3Eg3Lq3Eh3Mj3N$3Gs3Lv3BNw
  2Fcvj4p3oAyj5p2EsAj3oAAw4Ay3(Ay0+AaDPzbKv2cKv2Kw2Lf2Qf2E&2Fk2EL&Fk2Nd2L;2Mp2Lk2L>2J(2Eg2Lq2Ob2Eh
  2N$2Gs2Lv1Dbs2o2x2(2Cc2E)2sAp0+uE~xbKv2Kw2Lf2Qf2E&2Fk2Nd2L;2Q)2Mp2Lk2L>2J(2Eg2Lq2Ob2Eh2Mj2Uk2N$2
  Gs2Lv1F*KAc0+jDJlfGc2D<2Fr2Y(2]i1bm2B&2u2Ck2l2Cv2DpAa3E>3Ah3Fu2q2Cj2n2Cr2At2C=2Bq2Ef2Cs2C$2C*2Cx
  2Fp2C;2D=2Ez2D>2E,2Eo2Be2Di2Bi2Eb2A,2Aw2Du2B$2Ep2A*2A:2A$2A)2D$2Ct2Fa2Bd2Aq2Hf2DzW%Za4Jp4|h1BbfB
  &3DHwB&3u3Ck3l3Cv3DpAa4E>4Ah4Fu3q3Cj3n3Cr1E*1Gl1tGl1Esv2tv2C:2X$Aj2AD<1+eDbs2o2x2(2:2Ae2Am2Af2Ar
  2Cc2E)2I)2Kd2F)2K;2Fy2L*2Fh2sAp3A(1BgB(2s2o2x2(2:2Ae2Am2Af2Ar1fDzW%E*1bDzW%D;q5n1BbfDzW%D;q6n1bD
  zW%Hf1+jDbVz0GB&fGc2D<2Fr1bm2B&2u2Ck2l2Cv2q2Cj2n2Cr2At2C=2Bq2Ef2Cs2C$2C*2Cx2Fp2C;2D=2Ez2D>2BDs2E
  ,2Sm2Eo2Be2Di2Bi2Eb2A,2Aw2Du2B$2Ep2A*2A:2A$2A)2D$2Ct2Fa2Bd2Aq1BbfB&3u3Ck3l3Cv3q3Cj3n3Cr1fE*2Hz1J
  ;f1FAff1Dbf1Iaw1tIaw1Gl1tGl1BbfDpAa1+kDbfj0+cIW;IW%bBZk3G<3DFk3DL,3EO>3BHu3BP*3HDa3GJu3AQb3CB,3H
  R)3AIf3H|%3By3BLv3F|w3HLb3N=3E|<3ANi3AWs3|k3Qj3BP&2+hBgB(3s3o3x3(3:3Ae3Am3Af3Ar0+gDOgfGc2D<2Fr1b
  B&2u2l2q2ADe2BL=2^z2BIg2AEq2AJ$2BBw2BK<2F~a2BT*2CAx2AWk2BDp2BDu2HHn2Wy2~m2BC;2ERv2Zi2AE<2BV%2AAq
  2DHt2APa2J|o2]p2|)2_w2~&2AGg2R(1Bbfm3u3Ck3l3Cv3q3Cj3n3Cr3|l1nw1Crw1E*1GUp1+bBgB(2s2o2x2(2:2Ae2Am
  2Af2Ar1Iaw1Gl1tGl1G%w1bBNz1BbfB&3Rr1bCB*0+iGU,bm2u2l2q2n2At2C=2Bq2Ef2C$2C*2Cx2Fp2C;2D=2Ez2D>2E,2
  Eo2Be2Di2Bi2Eb2A,2Aw2Du2B$2Ep2A*2A$2A)2D$2Bd2Aq2Jp1fHz1J;f1Iaw1F*B]n0+jISdfGc2D<2Fr1bm2B&2u2Ck2l
  2Cv2DpAa3E>3Ah3Fu2q2Cj2n2Cr2At2C=2Bq2Ef2Cs2C$2C*2Cx2Fp2C;2D=2Ez2D>2E,2Eo2Be2Di2Bi2Eb2A,2Aw2Du2B$
  2Ep2A*2A:2A$2A)2Hf2D$2Ct2Fa2Bd2Aq1BbfB&3u3Ck3l3Cv3DpAa4E>4Ah4Fu3q3Cj3n3Cr1fE*2Ld2Y(2]i1Nt1Gl1tGl
  1J;f1Ib1~cw1fHz1BbGpw1FBvD;Bbw1I^>w1BbfASkq1fC<Gc1BgB(2s2o2x2(2:2Ae2Am2Af2Ar1E~j1fWs1AM,1EKjf1Ia
  _&2_(0+bB](JrBgs3o3x3(3:3Ae3Am3Af3Ar2DbCc3E)3I)3Kd3F)3K;3Fy3L*3Fh3sAp4A(0+lGEabm2B&2u2l2q2Cj2n2C
  r2At2C=2Bq2Ym2Ef2Cs2C$2C*2Cx2_h2+bC;2D=2Ez2D>2E,2Eo2Be2Di2Bi2ABi2Eb2A,2Aw2Du2B$2Vg2Ep2A*2A:2A$2A
  )2D$2Bd2Aq2Hf1BbfB&3u3Ck3l3q3Cj3n3Cr1fD<2E*2Hz2Z%1Gl1tGl1MmIb1Iaw1tIaw1J;f1fWx0+A%G_%bm2u2l2q2At
  2C=2Bq2+bEf2+bC$2C*2Cx2_h2+bC;2D=2Ez2D>2ABi2E,2Eo2Be2Di2Bi2Eb2A,2Aw2Du2B$2+bEp2A*2A:2A$2A)2D$2Bd
  2Aq2Jp2Sm1Iaw0+gGEjbm2B&2u2Ck2l2Cv2q2Cj2n2Cr2At2C=2Bq2Ym2Ef2Cs2C$2C*2Cx2_h2Fp2C;2D=2Ez2D>2ABi2Jp
  2E,2Eo2Be2Di2Bi2Eb2A,2Aw2Du2B$2Vg2Ep2A*2A:2A$2A)2D$2Ct2Bd2Aq1fD<1BbfB&3u3Ck3l3Cv3q3Cj3n3Cr1fHz2E
  *1+fBgB(2s2o2x2(2:2Ae2Am2Af2Ar0+gAMzfFcD<j2Gc2D<2Fr1+bbm2B&2u2Ck2l2Cv2DpAa3Ah2+cEu2Cj2+cEd2Cr2At
  2C=2Bq2Ef2Cs2C$2C*2Cx2Fp2C;2D=2Ez2D>2E,2Eo2Be2Di2Bi2Eb2A,2+bAw2Du2B$2Ep2A*2A:2A$2+bA)2Hf2+bD$2Ct
  2Fa2Bd2Aq0+bFcAJlp0AMzfHz2Ld1BbfB&3u3Ck3l3Cv3DpAa4E>3+cEu3Cj3+cEd3Cr1fE*1+cNt1+gCrMbw1+ffBWq1b~$
  D<3tD<2DpE>3Fu1BbfDpAh4Fu0+cFcAMzBgB(3s3o3x3(3:3Ae2+dbm3At3A,3Sv3Aw0+CzHC:bm2B&2u2Ck2l2Cv2DpAa3E
  >3Ah3Fu2q2Cj2n2Cr2At2C=2Bq2Ef2Cs2BSx2C$2C*2Cx2Fp2C;2BT;2D=2Ez2D>2E,2Eo2Be2Di2Bi2Eb2A,2Zm2Aw2Du2B
  $2Ep2A*2BQx2A:2A$2Sm2A)2Tz2Cy2Ct2Fa2Bd2Aq1BbfB&3u3Ck3l3Cv3DpAa4E>4Ah4Fu3q3Cj3n3Cr1fE*2Gc2D<2Fr2H
  z2Ld2rD<1Nt1IUu1Gl1tGl1Dh1^$Ry1J;f1BgB(2s2o2x2(2:2Ae2Am2Af2Ar1tDh1AR;w1+bANpf1~cw1b~$D<1fY(2]i0+
  )JE(AI&1bm2B&2u2Ck2l2Cv2DpAa3E>3Ah3Fu2q2Cj2n2Cr2At2C=2Bq2Ef2Cs2C$2C*2Cx2Fp2C;2D=2Ez2D>2E,2Eo2Be2
  Di2Bi2Eb2A,2Aw2Du2B$2Ep2A*2A:2A$2A)2D$2Ct2Fa2Bd2Aq1BbfB&3u3Ck3l3Cv3DpAa4E>4Ah4Fu3q3D;q3Cj3n3D;n3
  Cr1fGc2D<2Fr2E*2Hz2Ld1FOk1J;f1Nt1+iBgB(2s2o2x2(2:2Ae2Am2Af2Ar0+DoWsbm2B&2u2Ck2l2Cv2DpAa3E>3Ah3Fu
  2q2Cj2n2Cr2At2C=2Bq2Ef2Cs2C$2C*2Cx2Fp2C;2D=2Ez2D>2E,2Eo2Be2Di2Bi2Eb2A,2Aw2Du2B$2Ep2A*2A:2A$2A)2D
  $2Ct2Fa2Bd2Aq1BbfB&3u3Ck3l3Cv3DpAa4E>3+cq3Cj3n3Cr1fGc2D<2Fr2E*2Hz2Ws1Gl1tGl1Ibv2Aj1AS%_&2_(2BP>1
  Gm&Uzw1IawaAHwg~vHQs6FeTa4ZugFeTa7tTa7EkTa3tBh5aZu3atTa4EkTa4PvTa4IP%Ta4NegZu6oBF:6(BF:1bJDpIiu2
  CBfIiu4Ck2Iil1BbfIil4Cv0+;G^abm2B&2u2Ck2l2Cv2DpAa3E>3Ah3Fu2q2Cj2n2Cr2At2C=2Bq2Ef2Cs2C$2C*2Cx2Fp2
  C;2D=2Ez2D>2E,2Eo2Be2Di2Bi2Eb2A,2Aw2Du2B$2Ep2A*2A:2A$2A)2D$2Ct2Fa2Bd2Aq2Hf1BbfB&3u3Ck3l3Cv3DpAa4
  E>4Ah4Fu3q3Cj3n3Cr1fD<2Fr2E*2C_k1Gl1tGl1J;f1fFXq1+lBgB(2s2o2x2(2:2Ae2Am2Af2Ar0+gBReQcaD*1DeQc1tQ
  caD*1EkQcaD*1QcatD*1DeQcaD*4tD*1C<Qc3atD*1AU>Qc3aD*4tD*1CaAU>QcatD*0+tJAxbm2B&2u2Ck2l2Cv2q2Cj2n2
  Cr2At2C=2Bq2Ef2Cs2C$2C*2Cx2Fp2C;2D=2Ez2D>2E,2Eo2Be2Di2Bi2Eb2A,2Aw2Du2B$2Ep2A*2A:2A$2A)2D$2Ct2Bd2
  Aq2Jp1fD<2Fr1BbfB&3u3Ck3l3Cv3q3Cj3n3Cr1fE*2Hz1bJrC=1J;f1+gBgB(2s2o2x2(2:2Ae2Am2Af2Ar0+AqCZkbAt2C
  =2Cs2A,2Be2IiBe2Aw2Du2B$2A*2Cx2C*2Di2A$2A)2Bd2C;2Aq2m2Bi2Eb2Bq2IiBq2Ef2Ep2Fp2IiB$1+cIjfB%A)4A$4G
  M:A$1Bbfm3B&3u3Ck3l3Cv3q3AI:3n3Cj3P<1fGE<1+eBgB(2s2o2x2(2:2Ae2Am2Af2Ar1DbCc2E)1fcIa2Ia2ID,1,Sv1b
  C$2D=2Ez2D>2E,2Eo2Hf0+D:ET*bm2B&2u2Ck2l2Cv2q2Cj2n2Cr2At2C=2Bq2Ef2Cs2C$2C*2Cx2Fp2C;2D=2Ez2D>2E,2E
  o2Be2Di2Bi2Eb2A,2Aw2Du2B$2Ep2A*2A:2A$2A)2D$2Ct2Fa2Bd2Aq2Jp1BbfB&3u3Ck3l3Cv3DpAa4E>3q3Cj3n3Cr1fD<
  2Fr2E*2Hz1J;f0+ByJV*DQzebAEq4m4I;4Fn4A:4Gb4Ck4Cv4q4n4N>4Bq4Hy4Yc4CD&4AH(4ALx4Wd4~r4AQ(4Bi4H)4P<4
  Jv4Ny4BJ$4BJ:4BJ=4Yr4B^>4~h4CCf2cbAEq4m4I;4Fn4A:4Gb4Ck4Cv4q4n4N>4Bq4Hy4Yc4CD&4AH(4ALx4Wd4~r4AQ(4
  Bi4H)4P<4Jv4Ny4BJ$4BJ:4BJ=4Yr4B^>4~h4CCf2BgB(3s3o3x3(3:3Ae3Am3Af3Ar2DbCc3E)3I)3Kd3F)3K;3Fy3L*3Fh
  2+mNt0ETkCZ$bm3B&3u3Ck3l3Cv3q3+cn3+cAt3C=3Bq3Ef3Cs3C$3C*3Cx3+bC;3D=3+bD>3E,3Eo3Be3Di3Bi3Eb3A,3Aw
  3Du3B$3Ep3A*3A:3AIk3A$3A)3D$3Ct3Fa3Bd3Aq3Hf3Ee2BbfB&4u4Ck4l4Cv4q4+bCj4n2+cfD<3Gc3AM(2E*2BW%BR=f2
  B%A:2;A$2B%A$2fHz2tGl2^$Ry2Gm&Uzw2+jBgB(3s3o3x3(3:3Ae3Am3Af3Ar0+A,HAqbm2B&2u2Ck2l2Cv2DpAa3E>2+cq
  2Cj2n2Cr2At2C=2Bq2Ef2Cs2C$2C*2Cx2Fp2C;2D=2Ez2D>2E,2Eo2Be2Di2Bi2Eb2A,2Aw2Du2B$2Ep2A*2A:2A$2A)2D$2
  Ct2Fa2Bd2Aq2Hf2Jp1BbfB&3u3Ck3l3Cv3DpAa4E>3+cq3Cj3n3Cr1fD<2Fr2E*2Ld2Ws1AM,1BbfASkq0+%J~)Avbm2Bbfu
  4Iq4l4q4E=4n4Cj4Cr4Cnu3Mbw2bAt3C=3Bq3Ef3Cs3C$3C*3Cx3C;3D=3Ez3D>3E,3Eo3Be3Di3Bi3Eb3A,3Aw3Du3B$3Ep
  3A*3Gt3Ml3Ni3^p3I=3Ee3Xf3A:3A$3A)3D$3Ct3Fa3Bd3Aq3_u2rIjw2fE*3Gc4aD*3L(aD*3D<3Fr2BCfbA$2DRnbA:4A$
  4A)4D$2;Jzw2^dJzw2wP%3Lr3tLr3CbP%2;BEwJzw2^dBEwJzw2B_l0+iIXfbm1Bbfu3Iq3l3q3n3E=3Cj3Cr3DpAa4Ah2Mb
  w1bAt2C=2Bq2Ef2Cs2C$2C*2Cx2Fp2C;2D=2Ez2D>2E,2Eo2Be2Di2Bi2Eb2A,2Aw2Du2B$2Ep2A*2Gt2Ml2Ni2I=2Ee2Xf2
  A:2A$2A)2D$2Ct2Fa2Bd2Aq2_u1fY(2]i1BCfbA$3A)3Ct3Bd1rIjfBk4Bn4K,4Bw4Az4Ce4A<4Aa4Ah4Wo4Ab4Xf1fD<2Fr
  1^&w1B_l1wP%2Lr2tLr2BWq1JzwaHogP$gEkBG&8BG&71JCi_&2_(0+nAJ*AVaHAxG,3BJv3Hm3_a3Aq3R(3B]n3ITu3ITw3
  ITx3ITs3ITt2IXn2IXt2IX%2IXh0HT$DQsBJhbAw4At4A)4A*4Bi4Ee4D$4Cs4Aq4Bq4C=4Bd4B$4C$4Be4Di4A,4Du4A$4E
  %4C*4m4q4u4n4l4]g4AC*4rB=5Bn5Bo5A<5Az5Ah5Ci5K,5Bz3N%ChCb53~cG)Cu3N%ChCbr5r3~cG)Cur4ChCb55Cbr5r3B
  QzCh3G)CuI,3BQzChCbr5r3BOhChCb53G)Cu3BOhChCbr5r3G)Cur0+F<DHubm2B&2u2Ck2l2Cv2DpAa3E>3Ah2+bq2Cj2n2
  Cr2At2C=2Bq2Ef2Cs2C$2C*2Cx2Fp2C;2D=2Ez2D>2E,2Eo2Be2Di2Bi2Eb2A,2Aw2Du2B$2Ep2A*2A:2A$2A)2D$2Ct2Fa2
  Bd2Aq1BbfB&3u3Ck3l3Cv3DpAa4E>4Ah3+bq3Cj3n3Cr1fGc2D<2Fr2E*2Ld1Gl1tGl1MmIb1^$FE=2FE>1+kBgB(2s2o2x2
  (2:2Ae2Am2Af2Ar1Dbs2o2x2(2:2Ae2Am2Af2Ar2Cc2E)2I)2Kd2F)2K;2Fy2L*2Fh1ANdAH,w0+dGV*Jzw1wLr1bAt2C=2B
  q2Cs2C$2C*2Cx2C;2Be2Di2Bi2A,2Aw2Du2B$2A*2Gt2Ml2Ni2Cy2I=2Ee2Xf2A:2A$2A)2Ct2Bd2Aq2m1+cZ;bAt3C=3Bq3
  Cs3C$3C*3Cx3C;3Be3Di3Bi3A,3Aw3Du3B$3A*3Gt3Ml3Ni3Cy3I=3Ee3+bA:3A$3A)3Ct3Bd3Aq3m1BbfB&3u3l3q3n1fD<
  2Gc0+A<GWeBIobm3B&3u3Ck3l3Cv3q3+bCj3n3+bCr3At3C=3Bq3Ef3Cs3C$3C*3Cx3Fp3C;3D=3Ez3D>3E,3Eo3Be3Di3Bi
  3Eb3A,3Aw3Du3B$3Ep3A*3A:3A$3A)3D$3Ct3Fa3Bd3Aq3Hf3_u3BLk3AV>2BbfB&4u4Ck4l4Cv4DpAa4+dq4+bCj4n4+bCr
  2fD<3Fr3Hz3L(3AM(2E*2IAp2H|t2+iBgB(3s3o3x3(3:3Ae3Am3Af3Ar0+gFN;BIobm3B&3u3Ck3l3Cv3+bEu3Cj3+bEd3C
  r3A:3D$3B$3Ep3A*3At3C=3Be3Di3A)3Bq3Ef3Bi3Eb3A,3C$3C*3D=3Ez3Hf3Cx3Fp3D>3E,3Cs3Aw3Du3Aq3A$3Bd2BbfB
  &4u4Ck4l4Cv4+bEu4Cj4+bEd4Cr2fD<3Fr2E*2Nt2+hBgB(3s3o3x3(3:3Ae3Am3Af3Ar0+HgGVgbAt2Bq2Cs2Aw2B$2A*2B
  e2Bi2A,2C$2Cx2C;2A:2A$2A)2D$2Bd2m1C],1Bbfu3l3q3n1HTq1Gm&Ia0+D*BN>bJ^$0+pW%JysJDs3BUn3E~g3AT<3BHc
  3AVo2xBFw3IVt2sCA<3IVr3IVs3AVk3Hd2xCA=3AGy2sAL=3F:3FPv3FPw2xMh2E^aAL,GE:1fHCx2DOb2CV&2JOi2G|n2GH
  )2HTx2G_z2GBq2HSn2AR>2JQu2HRv2GH>2JQ<1JWpBCwf1ALpBCwf1GK:f1QzARnf1JGlAKsf2Dbf1AKwf1gWdf1IXrf1B~<
  f1DxBWxf1IZsGff1fG|l2JQo1+nEsGm&Uz0ELwfm3Agm4Jt4KeE(4Aq4Hn4V*D)4T:4Zv2AIr2Re3AgP>4ABsD)4Vs4KeE(4
  Aq4HnD)4ANj4Ov4ATs4lAklAkl3D)2]t3AgAAt4KeE(4GoAkEa4AGm4Lu2Xg2AAh3AgYe4ATvAkLg2Rf3AgRf4ALe4Lg4Aq4
  ADf4Jd4Fz4U<2CZ)2Kv2AIz3AgFz2F(3A&F(3xAg3AkAEmUbF(AkAEm5Fw2AI(2C^y2C_c3AgK)2C_r2C|c2El3CEgE(3BLs
  E(3A&ElU,A&U,U,A&U,Lm5A&El7GeElA&ElA&El2P>2AI,2B$2Jt2DFe2AJb2AAs3A&AAs2AAt2Aj2DF%2L%3Agm4He4HnD)
  2Jv3A&JvRe5U;3GeJv2AJw3A&AJw2S,2DKn2Bi2ABg3_qAgmAkV;5AIz5AAt5L%5Bq6AkV;5Jb5Yn5Nl5Aq5AC;6AkH<5Tv5
  A)5H<6AkBQb5Sd5Gq5LmAkLm5I%5Lu5N:AkYn5U<2EPh2BDg2BDh2EPo2Jx2BEb2^l3AgFz2ALe2ALf3OtlD)Il2Il2Le3A&
  Le3D)3Ur2^o3AgRu2E^l2X=2E^o2E^p2ALq2ABs3D)4D)2E^s2E^z2q3AgLm3A&qEgA&Eg2^q3AgmAkAqAkBi4He4Gy4Um4F
  z4l2E|,2E~c2It2Ea3AgKe5E(4Go3GeEa3UbEa3Fw2BGe2Ye2Ru2AL*3Agm5AkQr7AgQr4F(4Jt4ABsD)6D)4Aq5D)4HnD)4
  Ot5Fw4Y>4A)4QrAgQr4Kk4H<4N:4J:2Bq3D)2ACj3AgmAkBiAkAq6Aq6Hn4]tE(AkUy4F(4El4P>AkVs4Jt4AjAkA$4S,5Ak
  A$4Bi4Jx4^lAgFz4^o4It5AkA)4Ea5AgKeE(4KeE(4He4Jb4ACn5Akm4YnAkJh4AqAkH<AkRu4^,5AkA)4G,AkKk4ANb4HnD
  )4ANtAkM(AkEl4Tv4Ot4AOa5AkQr4Y>AkF(4A)4GoAkEa4Gy4Eg5A&Eg4Aw4Um4Zy4Fz5Ak~s4AGq4Z=4Lu4l4J:5AkLe3A&
  ACj2AMm3GeAMm2R%3A&R%HeA&He2Vs3R%A&R%HeA&He2FJh2FJi2Vu2Ke3E(3A&Ke3GeKe2He2FJp2FJu2BH>3AgK)2Jb3Ag
  q4l3GeJb2ACn3A&ACn3GeACn2FL:2Yn3D)2FMg3AgmAkHn4KeE(4Hn4H<AkHn4Aw2FMl2Lg3GeLg3AgJt4Lu3E(2Lh3GeLh2
  BIy3AgTv5AgHnD)4Eg4UmAkU,3D)2Nl3AgmAkK)4K)3A&NlAD=2BI%2BI&3AgFz2ACs2BI(2FOf2FOg2Aq3E(3D)2^,2G,3A
  gEl4P>4Jt4Il4R%4AOb4Eg4Fz4l2M(2ANb3AgF(4^,4Ot4AO(4J:2FXf2u3m2ANf2BKs3A&BKsS,5Fw2BKu2Hn3BEb3Lp3A&
  HnAGsA&AGsJ:A&J:3D)2F^q3AgKeE(2F^r2R<3AgLu3GeR<3UbR<3Fw2ANj2Dx2AC;2ANt2At3Agm4Xg5AkY>4P>4Jt4AAt4
  Aj4L%4Ye4Ru4Bq4Vs4KeE(4He5AkAGmAkm4Jb4Yn4LgAkZy5GeLg4Lh4BI(4Hn4R<4Tv4Jd4AOa4Kk4H<4Go5AkLe6Jb6Fq4
  Gy5AkBTw4Gq4Eg4Ew4Iy4Bd4Zy4Ct4Fz4AGq4M:4B]y4B_q4W&4l4N:4J:4CBtAgAw4U<4Rd2BLp3GeBLp2BLr2BLt2ADf2G
  By2BLu3A&BLu2Tv3AgHnD)2AN%3AgJt3GeAN%2GB,2GB:2Ot3OvAglA&OvAgl3A&OtOvAglA&OvAgl2BL*2Jd3AgJt4l4J:2
  AOa2AOb2GFg2GFh2_q3A&_q2Jl3A&G,AgP>JlA&G,AgP>2Y>2GHk3I,d2GHl2BM$3D)2BM%2K)3UbK)2_v2GIf2A)2Ov3Agm
  5AkBiAkAq6He6Qr4Rf4F(4ElCEgE(4Jt4L%4BDg4Ea4Bq4He4Nl5AkNl4Aq4^,4G,AgEg4HnD)4R<5AkAq6H<4Jd4AOb4Y>4
  BM$5AkG,Akm4Ov4AO(4H<4AO<4Go5AkEa4T:4Gq4FzAkZ=4ATvAkLgAkYe7E(4Wr5AkWr4Z=4~k4Lu4FqAkmAkJhAkA,4l5A
  km6lAkl4N:AkEl4J:4U<3Fw2V*3AgFz5AkZ=3D)4A&V*D)Fz2GJv2Qr3AgQr2Fm3AgK)5AkIy2Kk2GM=2GNi2AO(2H<3AgJt
  2_z3AgRf4Jt4Ru5E(4KeE(4G,AgJt4R<4BLt4ADf5AkEl4Jd4A)AkEl4Ov4GoAkEa4Gq4Ga4I%AkEl4B]%AkJv4U,3E(3Ge_
  z3Ub_z3Fw3Ur2Zc2AD=3A&AD=3UbAD=3Ur2AO;2AO<2Sd3A&Sd5HeA&He2A*3AgLu3D)2GUn2BP*2BP=2V;2BQb2Go2APr2G
  y2AEg2Fg3A&Fg2AP(3D)2G_;2G|g2T:3Agm4K)4Ee3A&T:5AgmAkA,3GeT:2BRt3Agm5AkJx4Jx3D)2A,2BR(2AEm3C<3AgM
  :E(3UbAEm2HAj2HAnBTy32BR:2Gq3Agm4J:3Ur2F,3Agq2HFb2HFr3AgKeE(4HeAkKeE(2AQu3AgF(4El5AkEl4Nl4GoAkKe
  E(4Gq4Eg4Fz5AkmF(6El7AkEl4N:AkEl4U<2HFz2Ga2BTq2Eg3V*AgHe5V;5Um6A&EgV*AgUm5U<3E(3A&Eg3GeEg5V*A&V*
  2BTw3]tAgAI,5L%5X=5Nl5HnD)5ADf5A)5Gq5B]&5N:3_qAgL%6l2Aw2|r2ARn2Lm2BVy2Ew3Agm4Re4L%4Jv4q4u4ANf4l4
  N:3GeEw2BWi3AgAN%4J:4Ee3UbBWi2A$2H|x2Lp2Iy2Bd2ZvBTy33Agm4Le4^o4Aq4Tv4K)4Sd4Gy4Eg4Um4AGq4Uy4N:4CB
  n4~w4Xa4U<3A&Zv3D)2Um3OvAgP>2IHi2Zy2Ct2AGm3Agm4Jt4Lg4Gq4Wr4~s4l5Akm2BZ=2IR*2Q%2Fz3M(3A&FzR%A&R%H
  eA&He5UyA&UyHeA&He2ISn2ISo2ATs2ISr2ISs2AGq3Agm4R<2B]h3Agm4AAs4AJw4ALf4He4Hn5D)4_v4AO<4AP(4Um2IS&
  2AGs3E(3A&AGsS,A&S,2ATv2M:3A&C<M:2Wr2IT$2I%3D)2B]y2AT%3A&AT%Wr2B]%2B]&2Jh3A&Jh2I^n2I^o2B_q2Z=2I^
  q2AHa2I^)2Be3Ei3AgG,4Gy3D)2Uy3A&UyF,A&F,IlA&Il3Fw2~k3AgL%4Nl4Fz4M:4U,4J:2Lu2W&2Fq3D)2Kt3E(2AVx2A
  V$3AgLu3A&AV$5R%A&R%HeA&He2H&2U,2CA*2AH%2~s3A&~sEeA&Ee2l3Nl3ll3A&lAwA&AwHeA&He5AHaA&AHa5lCnA&lCn
  2N:2CBn2J:3_v3AgJt4Gy4lAklAkl9D)3D)3Ur4AgJt2JMm2~w3AgOv4GoAkBi4AGm4l2JM,2CBt3AgOt4Aw2U;3D)2Xa3Ge
  Xa3Ur2AWx3AgmAkAq6A,4Rf4Aq4Eg4N:5AkEl6L%2JNt2JNv2JNw2CB&3Agm4AI,4Aj4ALq4Bq4Vs4KeE(4He4Lh4Aq4Hn4R
  <4ANt4Jd4Sd4AEg4Aw4Fz4AT%4H&4lAkNl4J:4~y2~y3Agl2U<3Agm4Jl4K)4Lu2JN*2JN&2JN)2JN;2JOh3AgOt2JOj2Ee3
  E(3FwAgK)2J~z2J~(2KAd2Rd3A&Rd2KBd2KBe3BLsE(2KBi2CEh2Pd2CEm3Agm2KB%2KB&2BLwBFz2ReAgEg2]tAgm2AIzAg
  GHs2ABg_qAgN:AkV;2EO,2IlAkM:2^oAgFz2AL*AgNl4Fz2ACjAgF(AkTvAkm4P>2FJ;2FMb2FXn2AtAgAI(4C|g4Lg4Nl4G
  ,AgP>4Sd4Aw4IT)4H&4AWx2OvAgJb2_zUrAgJt3AgRuAkQr4M:2BQs2BRtAgEe2HAf2AQt2HFs2AQuAgAAs4Jb2BTqDeFhD(
  2BVyEi2HWu2ZvAgHnD)2JEg2~wAgGo2ll1+B$BTvfoEl3xEl3(El3:El3AeEl3AmEl3AfEl3ArEl3xIl3(Il3:Il3AeIl3Am
  Il3AfIl3ArIl3(l3:l3Ael3Aml3Afl3Arl3sR&3oR&3xR&3(R&3:R&3AeR&3AmR&3AfR&3ArR&3s^)3o^)3x^)3(^)3:^)3o
  Q%3xQ%5I,d3(Q%3:Q%3AeQ%3AmQ%3AfQ%3ArQ%3s~g3o~g3x~g5I,d3(~g3:~g3Q%AgVsAkIl7AEg3s];3o];3x];5I,d3(]
  ;3:];3xI,dFA$6FA%3(I,dBN)6GNj6BN)m7Ce3AeI,dC|h3AmI,dF^(6ANjm7Ce3AfI,dJN,6JN:3ArI,dBKx6F^s6F^t6BK
  xm3oElE(3xElE(3(ElE(3:ElE(3AeElE(3s]%3o]%3x]%3(]%5I,d3:]%5I,d3HFm3HFl3sBGg3oBGg3sN,Il3oSsIl3:B]>
  Il3sN,I,dm3oSsI,dm3sHdEl4F:El3DzA|vsAT;6F:3sF:ACs4AoACs3BFzsN,4oSs4Kd4F)3(lI,d3:lI,d3AelI,d3AmlI
  ,d3AflI,d3ArlI,d1+bEsfDzA|vMmX:3AdGd3EnGd4CAj4H^t1+lfReAgEgE(4Wr2XgAgRu2JtAgIlE(2AJbAg]t4F,4Ee2J
  vA&JvAgBR(2BiAgLu2ABgAgK)2^lAgHn4lll2ALeAgJ:2X=AgAI(4El5H)k4ALf4ALq4Ye4Bq4Jb4YnD)4Lg4Aq4G,4HnD)4
  Ot4K)4_v5AkOt4GJy4Fm5AgK)4AO;AkLg4V;4APr4Gy4F,4Ew4Fz4I%D)2^qAgK)4Lm2YeCd2RuGeRu2AL*UrAgEl5G,5HnD
  )5A)5Qr5Go5APr5Jh3AgJh2ACjAgAJb4^lD)4X=AgHnD)6Ot4BGe4Bq4HeAkJx6Gq4AqAkm4_vAkOt4Fm5AgK)4AO;4T:4Gq
  5Ak^q6Jb4B]h4CEh2AMmDeFhD(2BH>Agl2LgAgLgGeLg2BIyAgHnD)2NlAkLgAgLu2AqE(D)2G,AgElA&G,AgEl2AtAgJv4A
  t4lll4Xa2OvAgPdA&Pd2GJx2GJz2GJ$2GJ%2BM>2GJ&2GJ(2BNaA&BNaD)2GJ)2BNbA&BNb2GJ*2GJ,2GJ:2GJ;2GJ<2GJ=2
  GJ>2GKa2GKb2GKc2GKd2GKe2GKf2GKg2GKh2GKi2GKj2GKk2GKl3AgLh4Hn4LmAkZc6LmAkZc4N:AkB$2GKm2GKn2GKo2GKp
  2GKq2GKr2GKs2GKt2GKu2GKv2GKw3AgEl4Jt4ABsD)D)4Y>4A)4W&4Fq4N:4J:4~y2GKx2GKy3Ag^o4Bq4Hn5D)4F,4LmAkL
  mAkZc4ATsAkJd4J:4~y2GK$2GK%2_zD)AgEl3AgIl4^,4Lm5AkLmAkZc4Lu2GyAkCEa2T:A&T:AgBq6Tv2AQuAg^lD)4Lg4B
  I%4G,4BL*4BM>4V;4LmAkLm4l5Akl4~y2ZvD)AgAq3AgEa4FzH)k4Lu2BZ=E(2FzA&Fz3AkANb4BR:4Zy2WrAkX=AgF,4^qA
  gF(2I%AgLu2LuAkZv2AH%AgKeE(4xIl2AWxC<3AgJ:2CB&AgBDh4GKz4Zc2CEa2PdA&PdAkZy2CEmAgxIlE(0+BGoEMgfDRo
  2DRp2DRq2DRr2DRs2DRt2DRu2DRv2DRw2DRx2DRy2DRz2DR$2DR%2DR&2DR(2DR)2DR*2DR,2DR:2DR;2DR<2DR=2DR>2DSa
  2DSb2DSc2DSd2DSe2DSf2DSg2DSh2DSi2DSj2DSk2DSl2DSm2DSn2DSo2DSp2DSq2DSr2DSs2DSt2DSu2DSv2DSw2DSx2DSy
  2DSz2DS$2DS%2DS&2DS(2DS)2DS*2DS,2DS:2DS;2DS<2DS=2DS>2DTa2DTb2DTc2DTd2DTe2DTf2DTg2DTh2DTi2DTj2DTk
  2DTl2DTm2DTn2DTo2DTp2DTq2DTr2DTs2DTt2DTu2DTv2DTw2DTx2DTy2DTz2DT$2DT%2DT&2DT(2DT)2DT*2DT,2DT:2DT;
  2DT<2DT=0+nE~dBJtAX)2AX*2AX,2AX:2AX;2CE:2AX<2CE;2CE<2AX=2AX>2AYa2AYb2AYc2AYd2AYe2AYf2CE>2AYg2AYh
  2AYi2CFa2AYj2AYk2AYl2AYm2AYn2AYo2AYp2AYq2AYr2AYs2AYt2AYu2AYv2AYw2AYx2CFd2AYy2AYz2AY$2AY%2AY&2AY(
  2AY)2AY*2CFf2AY,2AY:2CFh2AY;2CFi2AY<2AY=2AY>2AZa2AZb2AZc2AZd2AZe2AZf2AZg2AZh2AZi2AZj2AZk2AZl2AZm
  2AZn2AZo2AZp2AZq2AZr2AZs2AZt2AZu2AZv2AZw2AZx2AZy2A|;2A|<2A|=2A|>2A~a2C~w2A~b2A~c2A~d2A~e2DK;2DK<
  2DK=2DK>2DLa2DLb2DLc2DLd2DLe2DLf2DLg2DLh2DLi2DLj2DLk2DLl2DLm2DLn2DLo2DLp2DLq2DLr2DLs2DLt2DLu2DLv
  2DLw2DLx2EMl2EMm2EMn2EMo2EMp2EMq2EMr2EMs2EMt2EMu2EMv2EMw2EMx2EMy2EMz2EM$2EM%2EM&2EM(2EM)2EM*2EM,
  2EM:2EM;2EM<2EM=2EM>2ENa2ENb2ENc2ENd2ENe2ENf2ENg2ENh2ENi2ENj2ENk2ENl2ENm2ENn2ENo2ENp2ENq2ENr2ENs
  2ENt2ENu2ENv2ENw2ENx2ENy2ENz2EN$2EN%2EN&2EN(2EN)2EN*2EN,2EN:2EN;2EN<2EN=2EN>2EOa2EOb2EOc2EOd2EOe
  2EOf2EOg2EOh2EOi2EOj2EOk2EOl2EOm2EOn2EOo2EOp2EOq2EOr2EOs2EOt2EOu2EOv2EOw2EOx2EOy2EOz2EO$2E_s2E_t
  2E_u2E_v2E_w2E_x2E_y2E_z2E_$2E_%2E_&2E_(2E_)2E_*2E_,2E_:2E_;2E_<2E_=2E_>2E|a2E|b2E|c2E|d2E|e2E|f
  2E|g2E|h2E|i2E|j2E|k2E|l2E|m2E|n2E|o2E|p2E|q2E|r2E|s2E|t2E|u2E|v2E|w2E|x2FB(2FB)2FB*2FB,2FB:2FB;
  2FB<2FB=2FB>2FCa2FCb2FCc2FCd2FCe2FCf2FCg2FCh2FCi2FCj2FCk2FCl2FCm2FCn2FCo2FCp2FCq2FCr2FCs2FCt2FCu
  2FCv2FCw2FCx2FCy2FCz2FC$2FC%2FC&2FC(2FC)2FC*2FC,2FC:2FC;2FC<2FC=2FC>2FDa2FDb2FDc2FDd2FDe2FDf2FDg
  2FDh2FDi2FDj2FDk2FDl2FDm2FDn2FDo2FDp2FDq2FDr2FHn2FHo2FHp2FHq2FHr2FHs2FHt2FHu2FHv2FHw2FHx2FHy2FHz
  2FH$2FH%2FH&2FH(2FH)2FH*2FH,2FH:2FH;2FH<2FH=2FH>2FIa2FIb2FIc2FId2FIe2FIf2FIg2FIh2FIi2FIj2FIk2FIl
  2FIm2FIn2FIo2FIp2FIq2FIr2FIs2FIt2FIu2FIv2FIw2FIx2FIy2FIz2FI$2FI%2FI&2FI(2FI)2FI*2FI,2FI:2FI;2FI<
  2FI=2FI>2FJa2FOz2FO$2FO%2FO&2FO(2FO)2FO*2FO,2FO:2FY>2FZa2FZb2FZc2FZd2FZe2FZf2FZg2FZh2FZi2FZj2FZk
  2FZl2FZm2FZn2FZo2FZp2FZq2FZr2GA*2GA,2GA:2GA;2GA<2GA=2GA>2GBa2GI%2GI&2GI(2GI)2GI*2GI,2GI:2GI;2GI<
  2GI=2BOv2GPv2GPw2BOw2BOx2GPx2BOy2BOz2BO$2BO%2BO&2BO(2BO)2GPy2BO*2BO,2GPz2GP$2GP%2GP&2GP(2GP)2GP*
  2GP,2BO:2BO;2BO<2GP:2BO=2GP;2BO>2GP<2BPa2BPb2BPc2BPd2BPe2GP=2BPf2BPg2GP>2BPh2BPi2BPj2BPk2GQa2BPl
  2BPm2BPn2GQb2BPo2BPp2GQc2GQd2BPq2BPr2BPs2BPt2BPu2BPv2BPw2GQe2BPx2BPy2BPz2BP$2G|y2G|z2G|$2G|%2G|&
  2G|(2G|)2G|*2G|,2G|:2G|;2G|<2G|=2G|>2G~a2G~b2G~c2G~d2G~e2G~f2G~g2G~h2G~i2G~j2G~k2G~l2G~m2G~n2G~o
  2G~p2G~q2G~r2G~s2G~t2G~u2G~v2G~w2G~x2G~y2G~z2G~$2G~%2G~&2G~(2G~)2G~*2G~,2G~:2G~;2HG%2HG&2HG(2HG)
  2HG*2HG,2HG:2HG;2HG<2HG=2HG>2HHa2HHb2HHc2HHd2HHe2HHf2HHg2HHh2HHi2HHj2HHk2HJ;2HJ<2HJ=2HJ>2HKa2HKb
  2HKc2HKd2HKe2HKf2HKg2HKh2HKi2HKj2HKk2HKl2HKm2HKn2HKo2HKp2HKq2HKr2HKs2HKt2HKu2HKv2HM<2HM=2HM>2HNa
  2HNb2HNc2HNd2HNe2HNf2HNg2HNh2HNi2HNj2HNk2HNl2HNm2HNn2HNo2HNp2HNq2HNr2HNs2HNt2HNu2HNv2HNw2HNx2HNy
  2HNz2HN$2HN%2HN&2HN(2HN)2HN*2HN,2HN:2HN;2HN<2HN=2HN>2HOa2HOb2HOc2HOd2HOe2HOf2HOg2HOh2HOi2HOj2HOk
  2HOl2HOm2HOn2HOo2HOp2HOq2HOr2HOs2HOt2HOu2HOv2HOw2HOx2HOy2HOz2HO$2HO%2HO&2HO(2HO)2HO*2HO,2HO:2HRf
  2HRg2HRh2HRi2HRj2HRk2HRl2HRm2HRn2HRo2HRp2HRq2HRr2H]j2H]k2H]l2H]m2H]n2H]o2H]p2H_u2H_v2H_w2H_x2H_y
  2H_z2H_$2H_%2H_&2H_(2H_)2H_*2H_,2H_:2H_;2H_<2H_=2H_>2H|a2H|b2H|c2H|d2H|e2H|f2H|g2H|h2H|i2H|j2H|k
  2H|l2H|m2H|n2H|o2H|p2IE(2IE)2IE*2IE,2IE:2IE;2IE<2IE=2IE>2IFa2IFb2IFc2IFd2IFe2IFf2IFg2IFh2IFi2IFj
  2IFk2IFl2IFm2IFn2IFo2IFp2IFq2IFr2IFs2IFt2IFu2IFv2IFw2IFx2IFy2IFz2IF$2IF%2IF&2IF(2IF)2IF*2IF,2IF:
  2IF;2IF<2IF=2IF>2IGa2IGb2IGc2IGd2IGe2IGf2IGg2I|,2I|:2I|;2I|<2I|=2I|>2I~a2I~b2I~c2I~d2I~e2I~f2I~g
  2I~h2I~i2I~j2I~k2I~l2I~m2I~n2I~o2I~p2I~q2I~r2I~s2I~t2I~u2I~v2I~w2I~x2I~y2I~z2I~$2I~%2I~&2I~(2I~)
  2I~*2I~,2I~:2I~;2I~<2I~=2I~>2JK;2JK<2JK=2JK>2JLa2JLb2JLc2JLd2JLe2JLf2JLg2JLh2JLi2JLj2JLk2JLl2JLm
  2JLn2JLo2JLp2JLq2JLr2JLs2JLt2JLu2JLv2JLw2JLx2JLy2JLz2JL$2JL%2JL&2JL(2JL)2JL*2JL,2JL:2JL;2JL<2JL=
  2JL>2JMa2JMb2JMc2JMd2JMe2JOk2JOl2JOm2JOn2JOo2JOp2JOq2JOr2JOs2JOt2JOu2JOv2JOw2JOx2JOy2JOz2JO$2JO%
  2JO&2JO(2JO)2JO*2JO,2JO:2JO;2JO<2JO=2JO>2JPa2JPb2JPc2JPd2JPe2JPf2JPg2JPh2JPi2JPj2JPk2JPl2JPm2JPn
  2JPo2JPp2JPq2JPr2JPs2JPt2JPu2JPv2JPw2JPx2JPy2JPz2JP$2JP%2JP&2JP(2JP)2JP*2JP,2JP:2JP;2JP<2JP=2JP>
  2JQa2JQb2JQc2JQd2JQe2JQf2JQg2JQh2JQi2JQj2JQk2JUo2JUp2JUq2JUr2JUs2JUt2JUu2JUv2JUw2JUx2JUy2JUz2JU$
  2JU%2JU&2JU(2JU)2JU*2JU,2JU:2JU;2JU<2JU=2JU>2JVa2JVb2JVc2JVd2JVe2JVf2JVg2JVh2JYg2JYh2JYi2JYj2JYk
  2JYl2JYm2JYn2JYo2JYp2JYq2JYr2JZ(2JZ)2JZ*2JZ,2JZ:2JZ;2JZ<2JZ=2JZ>2J|v2J|w2J|x2J|y2J|z2J|$2J|%2J|&
  2J|(2J|)2J|*2J|,2J|:2J|;2J|<2J|=2J|>2J~a2J~b2J~c2J~d2J~e2J~f2J~g2J~h2J~i2J~j2J~k2J~l2J~m2J~n2J~o
  2J~p2J~q2J~r2J~s2J~t2J~u2J~v2J~w2J~x2CUv2CUw2CUx2CUy2CUz2CU$2CU%2CU&2CU(2CU)2CU*2CU,2CU:2CU;2CU<
  2CU=2CU>2CVa2CVb2CVc2CVd2CVe2CVf2CVg2CVh2CVi2CVj2CVk2CVl2CVm2CVn2CVo2CVp2CVq2+bAdVz2BcVz2F_wH)Ey
  AG<4F<AG<4EyGm4F<Gm2In>2S(ATi2GmATi0+CMlC]$BJtAX)2AX*2AX,2AX:2AX;2AX<2AX=2AX>2AYa2AYb2CE=2AYc2AY
  d2AYe2AYf2AYg2AYh2AYi2AYj2AYk2AYl2AYm2AYn2AYo2AYp2AYq2AYr2CFb2AYs2AYt2AYu2AYv2AYw2AYx2AYy2AYz2AY
  $2AY%2AY&2AY(2AY)2CFe2AY*2AY,2CFg2AY:2AY;2AY<2AY=2AY>2AZa2CFj2CFk2AZb2AZc2AZd2AZe2AZf2AZg2AZh2AZ
  i2AZj2AZk2AZl2AZm2AZn2AZo2AZp2AZq2AZr2AZs2AZt2AZu2CFl2CFm2CFn2AZv2AZw2AZx2AZy2CFo2CFp2CFq2CFr2CF
  s2CFt2CFu2CFv2CFw2CFx2CFy2CFz2CF$2CF%2CF&2CF(2CF)2CF*2CF,2CF:2CF;2CF<2CF=2CF>2CGa2CGb2CGc2CGd2CG
  e2CGf2CGg2CGh2CGj2CGk2CGl2CGm2CGn2CGo2CGp2CGq2CGr2CGs2CGt2CGu2CGv2CGw2CGx2CGy2CGz2CG$2CG%2CG&2CG
  (2CG)2CG*2CG,2CG:2CG;2CG<2CG=2CG>2CHa2CHb2CHc2CHd2CHe2CHg2CHh2CHi2CHj2CHk2CHl2CHm2CHn2CHo2CHp2CH
  q2CHr2CHt2CHu2CHv2CHw2CHx2CHy2CHz2CH$2CH%2CH&2CH(2CH)2CH*2CH,2CH:2CH;2CH<2CH=2CH>2CIa2CIb2CIc2CI
  d2CIe2CIf2CIg2CIh2CIi2CIj2CIk2CIl2CIm2CIn2CIo2CIp2CIq2CIr2CIs2CIt2CIu2CIv2CIw2CIx2CIy2CIz2CI$2CI
  %2CI&2CI(2CI)2CI*2CI,2CI:2CI;2CI<2CI=2CI>2CJa2CJb2CJc2CJd2CJe2CJf2CJg2CJh2CJi2CJj2CJk2CJl2CJm2CJ
  n2CJo2CJp2CJq2CJr2CJs2CJt2CJu2CJv2CJw2CJx2CJy2CJz2CJ$2CJ%2CJ&2CJ(2CJ)2CJ*2CJ,2CJ:2CJ;2CJ<2CJ=2CJ
  >2CKa2CKb2CKc2CKd2CKe2CKf2CKg2CKh2CKi2CKj2CKk2CKl2CKm2CKn2CKo2CKp2CKq2CKr2CKs2CKt2CKu2CKv2CKw2CK
  x2CKy2CKz2CK$2CK%2CK&2CK(2CK)2CK*2CK,2CK:2CK;2CK<2CK=2CK>2CLa2CLb2CLc2CLd2CLe2CLf2CLg2CLh2CLi2CL
  j2CLk2CLl2CLm2CLn2CLo2CLp2CLq2CLr2CLs2CLt2CLu2CLv2CLw2CLx2CLy2CLz2CL$2CL%2CL&2CL(2CL)2CL*2CL,2CL
  :2CL;2CL<2CL=2CL>2CMa2CMb2CMc2CMd2CMe2CMf2CMg2CMh2CMi2CMk2AZz2AZ$2AZ%2AZ&2AZ(2AZ)2AZ*2AZ,2CMl2AZ
  :2AZ;2AZ<2AZ=2CMo2AZ>2A]a2A]b2A]c2A]d2A]e2A]f2A]g2A]h2A]i2A]j2A]k2A]l2A]m2A]n2A]o2CMs2A]p2A]q2CM
  u2CMv2CMw2A]r2A]s2A]t2A]u2CMx2CMy2CMz2A]v2A]w2A]x2A]y2A]z2A]$2A]%2A]&2A](2A])2A]*2A],2A]:2A];2A]
  <2A]=2A]>2A^a2A^b2A^c2A^d2A^e2A^f2CM$2A^g2A^h2A^i2A^j2A^k2CM%2A^l2A^m2A^n2A^o2CM&2A^p2A^q2A^r2CM
  (2CM)2CM*2CM,2CM:2CM;2CM<2CM=2CM>2CNa2CNb2CNc2CNd2CNeA$B<Lp2CNf2CNg2CNh2CNi2CNj2CNk2CNl2CNm2CNn2
  CNo2CNp2CNqAf2CNr2CNs2CNt2CNu2CNv2CNw2CNx2CNz2CN%2CN(2CN*2CN:2CN<2CN>2COb2COd2COfS(_yw2COhGm_yw2
  COi2COk2COm2COo2COq2COs2COu2COw2COy2COz2CO$2CO%2CO&2CO(2CO)2CO*2CO,2CO:2CO;2CO<2CO=2CO>2CPa2CPb2
  CPc2CPd2CPe2CPf2CPg2CPh2CPi2CPj2CPk2CPl2CPm2CPn2CPo2CPp2CPq2CPr2CPs2CPt2CPu2CPv2CPw2CPx2CPy2CPz2
  CP$2CP%2CP&2CP(2CP)2CP*2CP,2CP:2CP;2CP<2CP=2CP>2CQa2CQb2CQc2CQd2CQe2CQf2CQg2CQh2CQi2CQj2CQk2CQl2
  CQm2CQn2CQo2CQp2CQq2CQr2CQs2CQt2CQu2CQv2CQw2CQx2CQy2CQz2CQ$2CQ%2CQ&2A^s2A^t2A^u2A^v2A^w2A^x2CQ(2
  A^y2A^z2A^$2A^%2A^&2A^(2CQ)2A^)2A^*2CQ*2CQ,2CQ:2A^,2A^:2CQ;2A^;2A^<2A^=2A^>2A_a2A_b2A_c2A_d0+GJh
  A~hbHVgBSzV<3FJ)FGb3AR>V<BWh5BWg3ZiV<3IT%3B~zV<3AQ<V<3IS%Aw|f3AR>Aw|fBWh6BWg3GUx3H&APd3HDd3GU$3G
  Vu3G|p3IP;3HJx3GDq3HGy3AHb3HEh3GK>3AOyADt3AExGYi3GUv3HTm3FLt3HSk3WaBSv3HMkAPs3lAXuBR*3FLs3AExBTn
  3IVk3GYu3GYe3G^y3GBz3AwAOw3ZlAOw3HU&3GUz3HFo3BXb3JJa3GO*3IW)3JCs3GU&3V&3HBy3GHx3G^x3IT*3GOh3FFh3
  ICx3GG)3IW:3_%HV;3IS)3AEx3ATxAQ%CD(3BT=G^q3HRu3BTg3JNk3AQm3BP(3BTa3BQe3AQ:3B~g3AUj3BU&3BTl3APc3M
  *3GCe3AQ$3U=3H<3AQj3BR<3GW%2HVhHJk3H&GUy3IUw3Z$H&3BOeAEy3_)GUw3GE%3J^u3GW$3GB*3HUg3J]tAOw3FmAQ%A
  E$3HJwISw3AEpHF(3FLv3BWk3H&BTm3B]fHF*3ISv3V<B~h3APkGWz3M*AEy3GDt3FLu3GDw3GJg3HTj3JSs3HEgBRv3HDsA
  Pn3JX)3IGz3JAh3GYf3HD&4C%3GYn3B_p3GW)3G^w3HLa3HZu3APsHDr3FEz3GW>3Vo3GDm3A*HF;4HGm3AOy3BSt3HJf3A*
  3GFb3AQq2HViBSzAPd3AQ<3CD(3JV(3AQm3HB&3HEa3FLo3GW&3FJ$3HLoG]wBQv3HJ$APk3BQg3HWw3HCc3ZeDL$3GDv3FL
  n3GDp3FnG_=3HL=3GW<3HJg3APk3J^t3GG%3ADe3ATn3HB:3JAj3BTf3B~zJ|b3I^c3HDwAE$3JSt3HAt3A*GDn3BTn3HD%3
  AOr3GW,3GYv3HJu3JCt3HDz3BHk3HB(3HJe3HJh3DKg3JSr3GW(3Iy3AQv3Fm3JE,3HJrAQq3HF,3V&3AQp3BP(3GW;3H<3A
  Dt3BTa3AQq3JX>3HDy3HJo3HJt3AOkBTg3HJq3BSd3A*BTm3]p3AQe3IT&3IP,3APj3APd3BQe3GDu3GW*3BL,3ZeHV*3CD*
  3BTb3BQ%3BRq3B]i3_lBNn4FEi3HDf3BR<3GNt3BWe3Zr3W)2HVjGW=3CCm3|f3V<3HF>3GM%3HF<3HJi3HDo3AE$3JX(3HE
  j3AGo3HD>3GDo3JCr3ISt3HF)3B_p3V&3J]r3GHw3BZr3GYl3HB)3GVi3APs3IP:3~=3HF:3GDrGW:3HEd3H&3BIg3HEl3FE
  y3AQf3GY(3GMj3HCd3G^r3GYz3HZ<3GY%3GYo3Sd3HJm3Ze3GIb3AQ:3B~g3AUj3CD*3BL,3H|$3JB(3HEc3GYj3HJn3GDs3
  BWf3HU;3HLw3AOy3BSt3GYm3HD*3J|g3Lm3CD)3BSd3AEy3I^a3BM%3HDu3HEf3CA,3BQv3GH%3HJp3JCq3GU%3HDp3GMk3H
  D$3AQ%3BTf3BIi3Jl3AF(Dz3AVd3B~,3M*3AGd3BNq3APp3A<3AHb3Fg3AGr3B]g3ADx3Ga3M:3AQ&3Sk3F,3ATx3HZy3BRv
  3AD;3AF(AP&3Kt3BTp3ZeAm3IHo3AB<2HVkAQe3JF)3BQg3AOr3JTy3GOq3AE<3B^r3H~c3HJl3HCh3ASl3W$3BSy3GG(3CC
  =3Wn3BSv3BU&3]f3AOk3BOe3BTl3BS(3APc3HEe3HEn3HJj3IB,3BTb3HUe3AGg3HD)3BQw3FLx3HEb3BS>3_%3BOf3HDq3H
  B>3JAnAEy3Z$3HZq3AEnIWy3HDxAE$3J^&3FLw3JI>3J^q3Ko3JJg3GDl3I^b3B~h3JSq3JWq3AOp3Ny3JAi3FLj3HDk3ISu
  3GYy3AEa3HL,3HG$3FJ&3AH%3GHq3CDi3M*DQ=3AXr3GYk3HB,3HV:3J|c3GMi3BHk3FJ(3HEk3V&3BP&3HD=3FLr3E%3HJ&
  3HU:3J^s3HDt3M*Kx3HMn3HXz3BQ%3FG<3BR*3BRq3BIi3R$u3G|q3HZl3HEi3ADt3HV=3AEx3J^r3HD(3AwBVr3R$AJ(3AM
  f3|e3m3B~,3n3u3GLa3AwHXg3Wy3JA<3AEnBR%_c3B]i3J^v3HEr3J_=3AXtI_g4AKq3AXu3J|e3BL:3ARz3|eFAn3BXa3AX
  e3Vo3U=3H<3Gy3AS&3Zt3HEs3Cs3Py3ATx3R$IAi3A,3Ew3AD;3Hy3Sf3A*3BP<3JCp3Jd3Wa3Cc3FEe3FL%2HVlAt3l3Jl3
  Eu3|*3AVd3M*3A)3AGd3BYm3APp3Wy3AEn3AQv3A<3AHb3AGr3I%3ATn3ADx3V&3BTr3Ga3BTe3AXt3M:3A:3AQ$3ARz3AQ&
  3AXe3Sk3Iy3F,3AS&3_l3BS$3|d3Py3ASl3AMf3Cy3Kk3AD;3Hy3BQf3AF(3A*3Iw3Ze3W)3_t3BZp3JT<0+hG_lbBe2AEr2
  Gb2AEf2B$2Bi2m2H$2BL>2FP>2EPc2AA>2GC;2BUh2APc2AQt2Aw2Ed2n2Hr2Z(2JC,2ALt2Cy2q2Hy2BNf2A)2FPq2Lp2JB
  ;1+bBgB(2s2o2x2(2:2Ae2Am2Af2Ar1+eGl1tGl0JA*bHRe2HPi2ARd2AE;2A|:2AAd2]y2A|)2JUm2JQ*2JT,2JUg2^t2^r
  2FAo2AB,2F|s2ANg2ANr2BK:2JOg2AH(2JNs2JOd2C~r2C~o2C~q2A|(2JM)2JMw2JMy2JM(2rK,2CbCBp2D;CBq3A|(2JMo
  2CBq2JMs2CBp2JM&2JMz2JM$2JM%2G|v2BQh2G_g2G|r2At2C=2Bq2Cs2Bd2A:2Cy2Aw2C;2Du2B$2A*2A,2Aq2A)2BKb2Be
  2Bi2A$2Zm2Ct2C$2Gt2Ef2FW;2Di2Mn2E%2Eb2C*2Ee1+bBgB(2s2o2x2(2:2Ae2Am2Af2Ar0+g]&CB,bE~=3At3Iz3E%3AD
  >3CDt3BHu3ESa3GGz3Pp3FXs3Cy3Pc3AMr3Jk3Rj3JOc3y3B$3Xc3J^h3Aw3JVt3m3n3Ed3l3Eu3q3u2+cFcCpCh3BsCh3V=
  Ch3GO&Ch3FSpCh2D,Cu0+kHR*BJ(BbGC=3GDb3GEy3GFj3GCq3GCt3GHp3GH<3GC<3GDx3GB$3GB(3GGm3GGp3GCv3GCx3GH
  n3GHo3GGe3GGw3GEw3GEx3BLr3GCu3GId3GIg3GBo3GBv2IjJQ&3HJz3GLg3BJh3HHl3H~i3HGx3H]*3J]=3FS$3GWq3DOr3
  HBw3FUl3HW>3HJv3HAy3Cr3JYu3DM*2w^aJJb4Id4GDk4GD,4I^d4FVg4JBf2f~%JDn4JIgDNw3^aDOv3~%JDc4FEo3JZsHJ
  )4Hh4JGe4FD*3~%IIx3BQlI]>3~%HI(3ANfCDg3JYv3^aJImAS<2+kBgB(3s3o3x3(3:3Ae3Am3Af3Ar2+bDbAVh3ANd3CcU
  )3V>3ApV>3CcDIc3JG;2+bf~%GO,3JZv3AM=3JDhAM=3KB>JC%3FU%3HIq3JY%3HJ%3Xk3JKbDNx3BQlJIe3Ks3GOv3G|i3^
  aFPsGPgBToBTo4ELuJIi4JKc5DQd4HZmEPv4HIwJF>2+fBCdfJIh4J^g4GNu4GLi4JZw4_s4FQm4G_t4JDm4JId4HVb4GDz4
  FPz4JQn4FD<4AXi4JIp4GIe4JUf0+ReGXiebA<3Ab3Bp3Ci3A|z3B:3BMt3B=3Bo3Bk3C&3u3Bn3m3Cq3q3Ce3B*3l3Fn3Ah
  3Dl3AC&3BT)3Cd3Bw3E=3Az3Aa3n3Cj3Bz1cbA<3Ab3Bp3Ci3A|z3B:3BMt3B=3Bo3Bk3C&3u3Bn3m3Cq3q3Ce3B*3l3Fn3A
  h3Dl3AC&3BT)3Cd3Bw3E=3Az3Aa3n3Cj3Bz1BgB(2s2o2x2(2:2Ae2Am2Af2Ar1DbCc2Ol2Nb2U&2Tm2Pl2Q&2Up2Rs2T<1B
  gsIid2oIid2xIid1Dh1D,Cu1,CZt1Hl|k0+BzGZubAw2B$2HbAw2AFi2A*2BQx2JrA*2E%2D$2JSw2Be2Bi2HbD=3Be2D=2D
  >2A,2Zm2HbEo2JrA,2Eo2HHw2A)2GPk2Tz2GMw2AV(2ETv2JFd2ETw2At2Bq2HbAt2Jo2H]&2Cs2BSx2JrCs2Aq2Mn2Ef2AM
  t2JIn2E_l2C;2BT;2Ml2^p2HbMl3^p2AS$Ml2Ct2Fa2I=2KB$2Gt2Ni2HbGt2Bd2Ee2KBz2AIp2KCv2JrAIp2KC&2KCw2Cy2
  N=2R,2DJu2I_o2E_k2Fq2Na2IDs1+efIjGpAj1bAQc1fA|u2AS$CCg3A|u1Bbfm3B&3CZj3F(3N>3n3Ed3Ih3Ci3q3Ea3Om3
  HPr3u3AC*3BKl3FZs3ANq3K&3Ck3_f3ANn3l3]g3JMf3JMg3Cv3JMq3JNf3Bz3Hb3F;3A_p3AB)3QyAB)3L:3QyL:3Cj3Rr3
  Cr3Uc3Az3K,3JNm3J|d3HPu3HPq3JUd3BKu3ALt3F_=3AH*1+hChi2Eyi2j2p1bQ,2St2W;2Q:2AHr2AV<2AHs2AS$~p3Q,3
  W;3Q:3AHr3AHs0+A$B|zR>w0HK;R>w0DzBB,)w2R>w0GD=cH>Ry0+lJS)IiH~twC$4HE&0+EGcB|zDUy1DUz1DU$1DU%1DU&
  1DU(1DU)1DU*1DU,1DU:1DU;1DU<1DU=1DU>1DVa1DVb1DVc1DVd1DVe1DVf1DVg1DVh1DVi1DVj1DVk1DVl1DVm1DVn1DVo
  1DVp1DVq1DVr1DVs1DVt1DVu1DVv1DVw1DVx1DVy1DVz1DV$1DV%1DV&1DV(1DV)1DV*1DV,1DV:1DV;1DV<1DV=1DV>1DWa
  1DWb1DWc1DWd1DWe1DWf1DWg1DWh1DWi1DWj1DWk1DWl1DWm1DWn1DWo1DWp1DWq1DWr1DWs1DWt1DWu1DWv1DWw1DWx1DWy
  1DWz1DW$1DW%1DW&1DW(1DW)1DW*1DW,1DW:1DW;1DW<1DW=1DW>1DXa1DXb1DXc1DXd1DXe1DXf1DXg1DXh1DXi1DXj1DXk
  1DXl1DXm1DXn1DXo1DXp1DXq1DXr1DXs1DXt1DXu1DXv1DXw1DXx1DXy1DXz1DX$1DX%1DX&1DX(1DX)1DX*1DX,1DX:1DX;
  1DX<1DX=1DX>1DYa1DYb1DYc1DYd1DYe1DYf1DYg1DYh1DYi1DYj1DYk1DYl1DYm1DYn1DYo1DYp1DYq1DYr1DYs1DYt1DYu
  1DYv1DYw1DYx1DYy1DYz1DY$1DY%1DY&1DY(1DY)1DY*1DY,1DY:1DY;1DY<1DY=1DY>1DZa1DZb1DZc1DZd1DZe1DZf1DZg
  1DZh1DZi1DZj1DZk1DZl1DZm1DZn1DZo1DZp1DZq1DZr1DZs1DZt1DZu1DZv1DZw1DZx1DZy1DZz1DZ$1DZ%1DZ&1DZ(1DZ)
  1DZ*1DZ,1DZ:1DZ;1DZ<1DZ=1DZ>1D]a1D]b1D]c1D]d1D]e1D]f1D]g1D]h1D]i1D]j1D]k1D]l1D]m1D]n1D]o1D]p1D]q
  1D]r1D]s1D]t1D]u1D]v1D]w1D]x1D]y1D]z1D]$1D]%1D]&1D](1D])1D]*1D],1D]:1D];1D]<1D]=1D]>1D^a1D^b1D^c
  1D^d1D^e1D^f1D^g1D^h1D^i1D^j1D^k1D^l1D^m1D^n1D^o1D^p1D^q1D^r1D^s1D^t1D^u1D^v1D^w1D^x1D^y1D^z1D^$
  1D^%1D^&1D^(1D^)1D^*1D^,1D^:1D^;1D^<1D^=1D^>1D_a1D_b1D_c1D_d1D_e1D_f1D_g1D_h1D_i1D_j1D_k1D_l1D_m
  1D_n1D_o1D_p1D_q1D_r1D_s1D_t1D_u1D_v1D_w1D_x1D_y1D_z1D_$1D_%1D_&1D_(1D_)1D_*1D_,1D_:1D_;1D_<1D_=
  1D_>1D|a1D|b1D|c1D|d1D|e1D|f1D|g1D|h1D|i1D|j1D|k1D|l1D|m1D|n1D|o1D|p1D|q1D|r1D|s1D|t1D|u1D|v1D|w
  1D|x1D|y1D|z1D|$1D|%1D|&1D|(1D|)1D|*1D|,1D|:1D|;1D|<1D|=1D|>1D~a1D~b1D~c1D~d1D~e1D~f1D~g1D~h1D~i
  1D~j1D~k1D~l1D~m1D~n1D~o1D~p1D~q1D~r1D~s1D~t1D~u1D~v1D~w1D~x1D~y1D~z1D~$1D~%1D~&1D~(1D~)1D~*1D~,
  1D~:1D~;1D~<1D~=1D~>1EAa1EAb1EAc1EAd1EAe1EAf1EAg1EAh1EAi1EAj1EAk1EAl1EAm1EAn1EAo1EAp1EAq1EAr1EAs
  1EAt1EAu1EAv1EAw1EAx1EAy1EAz1EA$1EA%1EA&1EA(1EA)1EA*1EA,1EA:1EA;1EA<1EA=1EA>1EBa1EBb1EBc1EBd1EBe
  1EBf1EBg1EBh1EBi1EBj1EBk1EBl1EBm1EBn1EBo1EBp1EBq1EBr1EBs1EBt1EBu1EBv1EBw1EBx1EBy1EBz1EB$1EB%1EB&
  1EB(1EB)1EB*1EB,1EB:1EB;1EB<1EB=1EB>1ECa1ECb1ECc1ECd1ECe1ECf1ECg1ECh1ECi1ECj1ECk1ECl1ECm1ECn1ECo
  1ECp1ECq1ECr1ECs1ECt1ECu1ECv1ECw1ECx1ECy1ECz1EC$1EC%1EC&1EC(1EC)1EC*1EC,1EC:1EC;1EC<1EC=1EC>1EDa
  1EDb1EDc1EDd1EDe1EDf1EDg1EDh1EDi1EDj1EDk1EDl1EDm1EDn1EDo1EDp1EDq1EDr1EDs1EDt1EDu1EDv1EDw1EDx1EDy
  1EDz1ED$1ED%1ED&1ED(1ED)1ED*1ED,1ED:1ED;1ED<1ED=1ED>1EEa1EEb1EEc1EEd1EEe1EEf1EEg1EEh1EEi1EEj1EEk
  1EEl1EEm1EEn1EEo1EEp1EEq1EEr1EEs1EEt1EEu1EEv1EEw1EEx1EEy1EEz1EE$1EE%1EE&1EE(1EE)1EE*1EE,1EE:1EE;
  1EE<1EE=1EE>1EFa1EFb1EFc1EFd1EFe1EFf1EFg1EFh1EFi1EFj1EFk1EFl1EFm1EFn1EFo1EFp1EFq1EFr1EFs1EFt1EFu
  1EFv1EFw1EFx1EFy1EFz1EF$1EF%1EF&1EF(1EF)1EF*1EF,1EF:1EF;1EF<1EF=1EF>1EGa1EGb1EGc1EGd1EGe1EGf1EGg
  1EGh1EGi1EGj1EGk1EGl1EGm1EGn1EGo1EGp1EGq1EGr1EGs1EGt1EGu1EGv1EGw1EGx1EGy1EGz1EG$1EG%1EG&1EG(1EG)
  1EG*1EG,1EG:1EG;1EG<1EG=1EG>1EHa1EHb1EHc1EHd1EHe1EHf1EHg1EHh1EHi1EHj1EHk1EHl1EHm1EHn1EHo1EHp1EHq
  1EHr1EHs1EHt1EHu1EHv1EHw1EHx1EHy1EHz1EH$1EH%1EH&1EH(1EH)1EH*1EH,1EH:1EH;1EH<1EH=1EH>1EIa1EIb1EIc
  1EId1EIe1EIf1EIg1EIh1EIi1EIj1EIk1EIl1EIm1EIn1EIo1EIp1EIq1EIr1EIs1EIt1EIu1EIv1EIw1EIx1EIy1EIz1EI$
  1EI%1EI&1EI(1EI)1EI*1EI,1EI:1EI;1EI<1EI=1EI>1EJa1EJb1EJc1EJd1EJe1EJf1EJg1EJh1EJi1EJj1EJk1EJl1EJm
  1EJn1EJo1EJp1EJq1EJr1EJs1EJt1EJu1EJv1EJw1EJx1EJy1EJz1EJ$1EJ%1EJ&1EJ(1EJ)1EJ*0+G~,PqbG]nQ,3St3W;3
  Q:3+bAV<3AHs3HAw~p4Q,4St4W;4Q:4+bAV<4AHs2+bJrq0YsbJrLy0FRhbCE$2CE%2CE&2CE,2FYs2FYt2FYu2FYv2JKw2J
  Kx2JKy2JKz2JK$2E_m2E_n2E_o2E_p2E_q2HMx2HMy2HMz2GBc2GBf2GBg2GBh2GBi2GBj2GBk2GBl2GBm2GBd2GBe2GBn2G
  Eo2GEp2GEq2GEr2GEs2GEt2GEu2GEv2GHd2GHe2GHf2GHg2GHh2GHi2GHj2GC&2GC(2GC)2GC*2GC,2GC:2GF=2GF>2GGa2G
  Gb2IGh2BZh2IGi2IGj2IGk2IGl2IGm2IGn2IUl2IUm2IUn2IUo2IUp2IUq2I](2I])2I]*2I],2I]:2I];2I]<2I]=2IIk2I
  Il2IIm2IIn2IIo2IWn2IWo2IWp2IWq2IWr2IWs2IWt2JAa2B|q2JAb2JAc2JD>2JEa2JEb2JEc2JEd2JEe2JEf2JI,2JI:2J
  I;2JI<2JI=2JBm2B|;2JBn2JBo2JBp2JBq2JBr2JBs2JBt2JFf2JFg2JFh2JFi2JFj2JFk2JFl2G~<2BR&2G~=2G~>2HAa2H
  Ab2HAc2HAd2HAe2HE*2HE,2HE:2HE;2HE<2HE=2HE>2HFa2HJ*2HJ,2HJ:2HCn2BSg2HCo2HCp2HCq2HCr2HCs2HHz2HH$2H
  H%2HH&2HH(2FO;2FO>2FPa2FPb2FPc2FPd2FPe2FPf2FPg2FO<2FO=2FR:2FR;2FR<2FR=2FR>2FSa2FSb2FW<2FW=2FW>2F
  Qu2FQv2FQw2FQx2FQy2FQz2FQ$2FU*2FU,2FU:2FU;2FU<2FU=2FU>2FVa2GUg2GUh2GUi2GUj2GUk2GUl2GUm2GZn2GZo2G
  Zp2GZq2GZr2GZs2GZt2G_o2G_p2G_q2G_r2GXc2GXd2GXe2G]z2G]$2G]%2G]&2G](2G])2J]a2J]b2J]c2J]d2J]e2CDe2J
  _$2J_%2J_&2J_(2J_a2J_b2J_c2J_d2J_e2J_f2H|q2BXw2H|r2H|s2IA>2IBa2IBb2IBc2IBd2IBe2IBf2IDu2IDv2IDw2I
  Dx2IDy2IDz2H~p2H~q2H~r2H~s2ICh2ICi2ICj2ICk2ICl2ICm2JVi2JVj2JVk2JVl2JVm2JWw2JWx2JWy2JWz2JW$2JWd2J
  We2JWf2JWg2JXb2JXc2JXd2JXe2JXf2JXg2JXh2G|w2G|x0YsbJrP*0PqbJrHb3Ly3P*0+AhYsbcI;3Hv3Ih0+rPqbcI;3Hv
  3Ih3Az0+BIoE^wbBt2Cd2B=2Bo2C&2Bn2Ah2Ce2Bw2Bp2Bk2Aa2B=Az2BwAb2C&Az2BnA<2AaAb2U$2WuBD>2BD>2ADm2WuC
  q2FSx2AO%2IA;2A<2Az2Cq2Ab2A<Az2AzA<2CqA<2AbCq2A<av2Azav2Cqav4AyJ$gj2Abav5p2A<Ab2AzAb2CqAb2AbAb2A
  <AzAb2AzA<Ab2CqA<Ab2AbCqAb2CqAbav3Az4Ab2AbBo4Aa3B=4Aa2BoAb3AaAb2Ci2JWt2CiAa2AbAz3A<2BnAaAb2BkAaA
  b2AbBn4Aa2m2Wu|q2|j2n2C^v2u2q2K&2D;u2AH*2Eu2WuQj2BY*u2WuEu2Cbu2Ly2l2Rv2AXg2lAz2Cbl2BY*l2AWs2Wul2
  HQa2|q2Uc2Cy2Ih2I;2CCw2JXv2BR=l3n3u3m2HUwF(3P<2WuEa3F(3Dd2DpA<1+fCY*kBcUo2V=BcUo2iBcUo2BsAdUo2V=
  AdUo2CpAdUo2XjUo3_xUo3B|y3Dv3q)3u)3B|y)2+dCpBu3AVwBu3C(3CbC(3v3Ax3C:3I:3Ad2+hBsBu3AVwBu3C(3CbC(3
  v3Ax3C:3I:3Ad3h1+cfnaEj1JDdbATk1tw1EsDPkD,Cu0ITmFGmbARi2EKkARi2AnAUu2AcAUu0+C|$KBsFcw^*T=AbOuDdk
  3T=AbOuDdk3AWhDdk3^*T=Ddk3T=Ddk3B^:Ddk3V:O&Ddk3O&Ddk3]mDdk3V:O&AbY<Ddk3O&AbY<Ddk3]mAbY<Ddk3^*T=A
  bOuDdi3T=AbOuDdi3AWhDdi3^*T=Ddi3T=Ddi3B^:Ddi3V:O&Ddi3O&Ddi3]mDdi3V:O&AbY<Ddi3O&AbY<Ddi3]mAbY<Ddi
  3AWhAbOu3V:O&AbOu3AUyV:O&3O&AbOu4AUy3]mAbOu3V:O&AUy3^*]m3KAf3Dd3H~j3AHn3DI<3JMl3HXn3GOg3GH$3GBw3
  KAi3IVy3H~n3ADrDdk2+cAV;ASwwG_i5I_b5JGx2wCEc3BD)CEc3HQ(3BWt4aAd*3BBy4HXu3HPc3B^sBTk3JFo3E^>2C|)A
  dBUl2wPhBUl3ADr2BlAV;ASwTs1HYzGpGMl3GMm3BEiBG,3ADr3AS<1+jHC*GHa3B~w2HTc2E^:BpDO%2BMj2J~*2B_g3AbH
  Pk2HUs3|b2B_gaB^sBTk2BB&2HSa2Va2FM)DI=3B~w3G_k3I_c3JGy2JT:AFp3AP%3Ux3AHv3V)AFp4AP%4Ux4AHv2tVa2Cn
  BB&2ERg2GD%2BBy2BWt2B^dAP%3Ux3AHv3AHn2BD)BMj2B^dV)Ux3BMk3V)AHn3ALrAFp4Ux4|b4V)2IWf3Ab]s3J~&3AbOu
  2ADr2AS<2Vq2GGf2KBr2B_c3Ab]s4Ou4]suOu4Ouu]s3J~%4Ab]s3AbICu4E_aJ~:4]suHXm2HXt2B_c|b2AUzAFp3G_j3GH
  b3HXw3AFo3|b3GF)3BMk3AHnHZ:3ALr3E^=3BE=3ALrV)3BE=V)3ACqaC)Va3ACraC)Va3ACq3ACr4atVa3BIv4AFo2GXg3H
  Yc3GF,3GF*3GF(2AUzJH<3JH=3JH>2HQy3Ux3AHv3BMzUx3V)Ux4|b2AUzBMz4AFo4ACqaC)Va4ACraC)Va4ACq4ACr5atVa
  4BIv5AFo4JH;2GHr2HPd2E^n2HCy2HT%0+AwDK*Oy,Cm3EPr3Er3BUzABy4Vj3CB:ABy4Vj3GCp3I|p3ARr3J_w4Vj3GG=3A
  |dABy3AL(ABy3B|=3_m3A|i4Vj3I|j3JDj3BUjJs3AMyJs3HZg3DOj3JQ%3ANuJs3ADiJs3_mJs3IH%3HTe3B_dC^z3HRbJs
  3JQvJs3A|gJs3C^%3ADn3IA*3BV,Js3JEw3C]&3BZ$3B|pJs4GX;IZw3BU$Js3B~i3GL*3ABt3JG$3AVl3GG:3A|dAL(Hg3^
  yJs3F^%3AHxJs3GCnAHx3BVo3BW>3BMq3BB:Js3H~b3ARqJs3ARrJs3FZv3BR;3HU(3BMqAIx3AHxAIx3IZ<3FNv3ANuHg3B
  UjHg3BUzHg3HU)3GGv3HU*3GG;3BVoHg3_mHgS%3ADiHgS%3J_y3A|iHg3A|hI|iHg3J_x3GG<3E~n3DOi3G]bANu3CB:Hg3
  BV,Hg3BW>Hg3HP$3C^r3GPn3ARrHg3ARqHg3BGiARq3GIw3C^q3AHxHg3E~m3B|pHg3I|o3BB:Hg3FAm3BZ$Hg3JY;ADn3JH
  h3HZd3JHf3JHg3HZe3JHi3HZf3FM=3A|p3BGiA|p3BU$Hg3JC:FA&4AL(3B~iA|f3JC>Y)C^&3GCo3E~;3J^zV%4S%3B_d3A
  DnS%3VjJs3GG,Js4AIx4Hg3A|gHg3AAl3Vj3JG=3JCo3AOj3BNsE~>BB<4ABtAKa4JG<AKa4JCkAKa4F^)BB<3AMyHgS%4BV
  dA|q5BD<3ESt4BVdA|qV%6S%5BD<3JG)3C_n3F^z3ESh3CZeBWuA|o4C_o4A|o4GYb4GX,4BIp4FM>4BWuBIp3BQaBW=Nm4A
  _&BW=Nm4BD=Nm4A_&BD=Nm4JHaNm4JG(4B~dNm5BNrNm4BNrNm4BWmNm3F|gB~aBKn3A|hB~aBKn3FEbJCm4BRf4BEd3BQaJ
  QxNm4HY>Nm4BWmB~dNm3FNcAzA|f5ES*3E~(Y)^yCCi3F^$3F^&3^yJsERuFZw4ALcAw5BR;4HAuNm4ALcJx4AT>ESjJx4AL
  cJc5Pc5F,V%6S%4GVhAJ>BEd6BRf3FE(AT>AJ>JQy3^yAT>AJ>I|f4HCz3DP(KCa4GF&4IXm3^yuAIhB~c4E~&C^p3AIhCAn
  3BEcCAn4B~c4AAlABtTd4BRgAVlTd4BEfAB,Td4CAkBUgTd3AIhAAlABtTd4BRgAVlTd4BEfAB,Td4CAkBUgTd3FKiBEc4AI
  h3ESiAAlG]a5GXn4Vj4B~k3IU)B~k5BEm5CAm5B~f4C_,5BEm5CAm5B~f3ESuFKr3ESrUc3AUv3C_sAw4CCi4Bq4Jx4Jc4Pc
  4F,3_mHgBQt3ADiHgBQt3_mHgV%3ADiHgV%3ADnV%3AMyHgV%0+kOy,C)Xm2tXm2rXm2JgrXm2NhXm2D;Xm2k|,f2i|,f2|,
  Ay2MxBZy2BiDMm2BZy2DUe2IAnFE*3FE,3FE:2BGx3p2BA*w2DL*2DJj2As2HP(Ut2JJ=Ut2JDuUt2FGtUt2FFnUt2IVnUt2
  IVpBHi2FGvBHi2BkXv4AReAAj5]&2B*Xv2C&Xv4AReAAj5]&2^nDQ>3DRa2+cNsZfKq2tZ&3Yj2YjAc3An2BSaAc3An2Z&Ac
  3An2F:ChZ&4Yj2DUrAVz2AKyAVz2AReAAj3]&2H^(AAj3]&2G_&Kq2AW>Kq2AoKq2F:Kq2HdKq2Z,Kq2AVoKq2AT<Kq2sApC
  A>Kq2CdOz2AkOz2AxCdOz2AvOz%4z2BmOzAc%5z4k%5z4i%5z4An%5z4Aci%6z2HoOz%4z2JG%OzAn%5z2EvOz2JTsOz2Ozz
  2BTtOz2DRmOz%4z2Dr2AW>Jn2AoJn2F:Jn2HdJn2Z,Jn2AVoJn2AT<Jn2sApCA>Jn2FcSp3IX:Sp3CAf3CAg3CAh2FFaCAf3
  CAg3CAh2FcC|=v3FFs3FFt3FFu3FFv3FFw2S(A~s2GmA~s2S(]e2Gm]e2S(B^i2GmB^i2S(BV)2GmBV)2FcFb3IZh3JCg3IZ
  g3GV&3GV(3CYb3GO%2C_$Ac3An2FcET:3IB>3BG,3IWg3AAy3tW<3EkW<2IB;2I^f2B:2HV&2GYh2FGq2ELh2EQx2BIrJnLs
  4E<Ls2JGh2AWm2C<AWm2AWmLs3Ac2D*I]n3I]q3I]r3I]s3I]t3I]u3I]v3I]w3I]x3I]o3I]p2FQl2HCt2Gm&IZ(2ABjLs2
  FcAnXr3AcXr3FQf3IWkHW%2BVkw3Acw2AoBVkw2FMrAc3An2aFFb2EPj3]v2GWs2AO,2BA,2BZ&%3z2BQ:3z2BZ(%3z2FHd%
  3z2AO,AFeKq3ANkKq2BA,Kq2BZ&Kq2BQ:Kq2BZ(Kq2JCdHUtBCxBW,AFe6ANk6AFeBEg3F^:BCxBW,AFe6ANk7BEg7ES$7ES
  %2ELk2FNtB*Xv3C&Xv2AvCe2JTd2HXl2DRf2BZv2DRb2B~:2HX(3BG)2BZvBG)2B~:IAz2HU$I^k2GE(B*Xv3Gm&Ui3rJn3H
  ~zw3AW>Jn3AoJn3F:JnSpAn6Ac3HdJnSpAn6Ac3Yjf2IW<2GGs0+vHxJToUaB_,3B|c3I_$3B|f3B|g3I|c3B|m3B|n3I|d3
  I_q3B_:3B_;3B_<3B_=3I_r3I_s3B_>3B|a3B|b3I_t3I_u3I_v3B|d3B|e3B|h3B|i3B|j3B|k3B|l1F_xUaB_,3B|c3B|f
  3B|g3B|m3B|n3B_:3B_;3B_<3B_=3B_>3B|a3B|b3B|d3B|e3I_w3I_x3I_y3I_z3I_%3I_&3I_(3I_)3I_*3I_,3I_:3I_;
  3I_<3I_=3I_>3I|a3I|b3B|h3B|i3B|j3B|k3B|l0FcHxOyCAl3B~e3BVq0HxOyBNs0+DcGWuQxB(2s2o2x2(2:2Ae2Am2Af
  2Ar2Cc2Ol2Nb2U&2Tm2Pl2Q&2Up2Rs2T<0+mZgFfM%0BEeFfFQ;M%2ANcM%2E|&ACx3ANc2M%0JCnFfDq2D,Ax2G]r2DF,2B
  L&c2EKo2C|e2ARc2DJqMf2EQ$B<ETg2ETj2J_s2ANl2HUj2BX;2Xx2YtOc2CCk2BG<2CYt2IAg2IAv2E|(2ANz2EKi2E~*2E
  ^*2DOn2EQv2GuIAw2HRz2GL%2DRg2GFa2AMn2I]g2HZ%2FG>2IAu2BNnB<G]:2BYh2FM%yBQm2E~)2IZ;2FNs2E~<2BVf2IC
  d2FF(2JQzB<JV=2EKg2Zf2AL$2JNj2ESz2FsJf2FN%2AMnDx2GWj2CYf2E~y2E]=2CCo2IU<2BK$2BD:2BDj2ES&2FBo2IP>
  2IZ*2FQd2AKi2DRi2FD:2CZd2DUw2DdFjJRa2ESp2GJl2FGs0+jEK>ICtAH,Bgs4o4x4(4:4Ae4Am4Af4Ar2AVhBgs4o4x4(
  4:4Ae4Am4Af4Ar0L<B|wws3o3x3(3:0B|wws2:0+CvZdGuem3Ce3B*3Bw3q3C&3Bk3Bt3u3Cq3Bn3Ah3A<3Az3n3B=3Dl3Aa
  3Ab3Bo3l3Bp3Ci3Cd3Bz3B:2cm3Ce3B*3Bw3q3C&3Bk3Bt3u3Cq3Bn3Ah3A<3Az3n3B=3Dl3Aa3Ab3Bo3l3Bp3Ci3Cd3Bz3B
  :1Poem3Ce3B*3Bw3q3C&3Bk3Bt3u3Cq3Bn3Ah3A<3Az3n3B=3Dl3Aa3Ab3Bo3l3Bp3Ci3Cd3Bz3B:2cm3Ce3B*3Bw3q3C&3B
  k3+bu3Cq3Bn3Ah3A<3Az3n3B=3Dl3Aa3Ab3Bo3l3Bp3Ci3Cd3Bz3B:1GuPoem4Ce4B*4Bw4q4C&4Bk4Bt4u4Cq4Bn4Ah4A<4
  Az4n4B=4Dl4Aa4Ab4Bo4l4Bp4Ci4Cd4Bz4B:3cm4Ce4B*4Bw4q4C&4Bk4Bt4u4Cq4Bn4Ah4A<4Az4n4B=4Dl4Aa4Ab4Bo4l4
  Bp4Ci4Cd4Bz4B:1H>em3+bB*3Bw3+cBk3+cCq3Bn3+cAz3n3B=3Dl3+bAb3Bo3l3Bp3Ci3Cd3Bz3B:2cm3Ce3B*3Bw3+bC&3
  +bBt3u3Cq3Bn3Ah3A<3Az3+bB=3Dl3Aa3Ab3Bo3l3Bp3Ci3Cd3Bz3B:1GuH>em4Ce4B*4Bw4q4C&4Bk4Bt4u4Cq4Bn4Ah4A<
  4Az4n4B=4Dl4Aa4Ab4Bo4l4Bp4Ci4Cd4Bz4B:3cm4Ce4B*4Bw4q4C&4Bk4Bt4u4Cq4Bn4Ah4A<4Az4n4B=4Dl4Aa4Ab4Bo4l
  4Bp4Ci4Cd4Bz4B:1BHfem3Ce3+bBw3q3C&3Bk3+cCq3Bn3Ah3A<3Az3n3B=3Dl3+bAb3Bo3l3Bp3Ci3Cd3Bz2+bcm3Ce3B*3
  Bw3q3C&3Bk3Bt3u3Cq3Bn3Ah3A<3Az3n3B=3Dl3Aa3Ab3Bo3l3Bp3Ci3Cd3Bz3B:1Piem3Ce3+bBw3q3C&3Bk3+bu3Cq3Bn3
  Ah3A<3+bn3+dAb3Bo3l3Bp3Ci3Cd3Bz2+bcm3Ce3B*3Bw3q3C&3Bk3Bt3u3Cq3Bn3Ah3A<3Az3n3B=3Dl3Aa3Ab3Bo3l3Bp3
  Ci3Cd3Bz3B:1GuBHfem4Ce4B*4Bw4q4C&4Bk4Bt4u4Cq4Bn4Ah4A<4Az4n4B=4Dl4Aa4Ab4Bo4l4Bp4Ci4Cd4Bz4B:3cm4Ce
  4B*4Bw4q4C&4Bk4Bt4u4Cq4Bn4Ah4A<4Az4n4B=4Dl4Aa4Ab4Bo4l4Bp4Ci4Cd4Bz4B:1Ipem3Ce3B*3Bw3q3C&3Bk3Bt3u3
  Cq3Bn3Ah3A<3Az3n3B=3Dl3Aa3Ab3Bo3l3Bp3Ci3Cd3Bz3B:2cm3Ce3B*3Bw3q3C&3Bk3Bt3u3Cq3Bn3Ah3A<3Az3n3B=3Dl
  3Aa3Ab3Bo3l3Bp3Ci3Cd3Bz3B:2Guem4Ce4B*4Bw4q4C&4Bk4Bt4u4Cq4Bn4Ah4A<4Az4n4B=4Dl4Aa4Ab4Bo4l4Bp4Ci4Cd
  4Bz4B:3cm4Ce4B*4Bw4q4C&4Bk4Bt4u4Cq4Bn4Ah4A<4Az4n4B=4Dl4Aa4Ab4Bo4l4Bp4Ci4Cd4Bz4B:2Poem4Ce4B*4Bw4q
  4C&4Bk4Bt4u4Cq4Bn4Ah4A<4Az4n4B=4Dl4Aa4Ab4Bo4l4Bp4Ci4Cd4Bz4B:3cm4Ce4B*4Bw4q4C&4Bk4Bt4u4Cq4Bn4Ah4A
  <4Az4n4B=4Dl4Aa4Ab4Bo4l4Bp4Ci4Cd4Bz4B:2GuPoem5Ce5B*5Bw5q5C&5Bk5Bt5u5Cq5Bn5Ah5A<5Az5n5B=5Dl5Aa5Ab
  5Bo5l5Bp5Ci5Cd5Bz5B:4cm5Ce5B*5Bw5q5C&5Bk5Bt5u5Cq5Bn5Ah5A<5Az5n5B=5Dl5Aa5Ab5Bo5l5Bp5Ci5Cd5Bz5B:1B
  Rhem3Ce3B*3Bw3q3C&3Bk3Bt3u3Cq3Bn3Ah3A<3Az3n3B=3Dl3Aa3Ab3Bo3l3Bp3Ci3Cd3Bz3B:2cm3Ce3B*3Bw3q3C&3Bk3
  Bt3u3Cq3Bn3Ah3A<3Az3n3B=3Dl3Aa3Ab3Bo3l3Bp3Ci3Cd3Bz3B:1PocM$u4Cq1+cGueF&3Ju3Iu3Jj3Hk3N<3I>3H%3Gi3
  Ki3M)3Fg3Ga3Mo3Kn3Ew3Hh3H%,3Ht3Ks3G=3H$3H,3K:3Fi2Zj2cF&3Ju3Iu3Jj3Hk3N<3I>3H%3Gi3Ki3M)3Fg3Ga3Mo3K
  n3Ew3Hh3rHt3Ht3Ks3G=3H$3H,3K:3Fi2ZpX)2Hk,2H%,2Ki,2H$,2Hh,2Ew,1PoeF&3Ju3Iu3Jj3Hk3N<3I>3H%3Gi3Ki3M
  )3Fg3Ga3Mo3Kn3Ew3Hh3H%,3Ht3Ks3G=3H$3H,3K:3Fi2Zj2cF&3Ju3Iu3Jj3Hk3N<3I>3H%3Gi3Ki3M)3Fg3Ga3Mo3Kn3Ew
  3Hh3rHt3Ht3Ks3G=3H$3H,3K:3Fi2ZpX)2Hk,2H%,2Ki,2H$,2Hh,2Ew,1GuPoeF&4Ju4Iu4Jj4Hk4N<4I>4H%4Gi4Ki4M)4
  Fg4Ga4Mo4Kn4Ew4Hh4H%,4Ht4Ks4G=4H$4H,4K:4Fi3Zj3cF&4Ju4Iu4Jj4Hk4N<4I>4H%4Gi4Ki4M)4Fg4Ga4Mo4Kn4Ew4H
  h4rHt4Ht4Ks4G=4H$4H,4K:4Fi3ZpX)3Hk,3H%,3Ki,3H$,3Hh,3Ew,1IpGueF&4Ju4Iu4Jj4Hk4N<4I>4H%4Gi4Ki4M)4Fg
  4Ga4Mo4Kn4Ew4Hh4H%,4Ht4Ks4G=4H$4H,4K:4Fi3Zj3cF&4Ju4Iu4Jj4Hk4N<4I>4H%4Gi4Ki4M)4Fg4Ga4Mo4Kn4Ew4Hh4
  rHt4Ht4Ks4G=4H$4H,4K:4Fi3ZpX)3Hk,3H%,3Ki,3H$,3Hh,3Ew,3PoeF&5Ju5Iu5Jj5Hk5N<5I>5H%5Gi5Ki5M)5Fg5Ga5
  Mo5Kn5Ew5Hh5H%,5Ht5Ks5G=5H$5H,5K:5Fi4Zj4cF&5Ju5Iu5Jj5Hk5N<5I>5H%5Gi5Ki5M)5Fg5Ga5Mo5Kn5Ew5Hh5rHt5
  Ht5Ks5G=5H$5H,5K:5Fi4ZpX)4Hk,4H%,4Ki,4H$,4Hh,4Ew,1GueX,2cX,2+cBgB(3s3o3x3(3:3Ae3Am3Af3Ar1PiBgB(3
  s3o3x3(3:3Ae3Am3Af3Ar1IpBgB(3s3o3x3(3:3Ae3Am3Af3Ar2GuBgB(4s4o4x4(4:4Ae4Am4Af4Ar1BRhBgB(3s3o3x3(3
  :3Ae3Am3Af3Ar0IU$G*A>1K$A>1YqA>1^;A>1KgA>1OqA>1G*A>Gk1K$A>Gk1G*CgSuA>Gk2A>HqADp3X%3Li4Bs1K$A>BJx
  1G*A>>1K$A>>1G*A>>Gk4HqAOf4Li3Ac>Li3Li>Ac3>J>5A>Gk5>Gk5X%5Li4Ng1K$A>>Ng1G*>GkA&A>2A>GkA&>3>Cg1K$
  A>>Cg1G*A>>IfCgGk4GkCgIf4CgGk4LiN(CgHs3Ac>LiCgHs7J>3Li>AcCgHs3>AcN(CgKy4CgX%5Dw5Yu5Li2CgKxA>>If2
  A>>J>CgHs7J>7Gk2>CgYuA>Ac2A>CgYu>Ac3>J>LiCgHs4NgCgHs4J>CgKy5X%CgKy2>CgX%A>Ac2A>CgX%>Ac2>CgDwA>Ac
  6Li2A>CgAI%Mf>Ac5Dx>Ac4Dw>Ac3>CgJ>Li5AI%Mf62>CgAI%MfA>Ac7Ng5A>Ac2A>CgYu>Li1AM*(H;4Gk4Li4J>5B^(1A
  Cv(H;J>1G*(H;J>Gk1Kg(H;J>1AM*:H;N(2Vx:H;N(2:H;N((Gk2Vx:H;N((Gk2:H;N(Gk2Vx:H;N(Gk2:H;N(CgKy1Yq:H;
  N(5B;1Kg:H;N(B;1^;:H;N(1AM*:H;N(Li6CgHs6E<Cg22Kx|sFD%2Vx2CgHs2VxCgHs2CgGk3Ky2B^(A>CgHs3Dq4CgHs6G
  k3Dt1ACv2CgHs2E<Cg2CgKy1^:BCz21YqB;22B;CgHs2CgHs2B;E<Cg2E<Cg2B;CgKy2CgKy1AM)B;21K$1^;2CgHs2E<Cg2
  CgKy1KgB;3CgKy22c2B;CgHs2CgHs2B;E<Cg2E<Cg2CgHsB~=A>3Kx>Bh1Oq1G*A>>Bh1K$A>>Bh1KgA>>Bh1OqA>>Bh1KgD
  t1G*A>>BhGk5J>1KgA>>BhJ>1G*DtAn4ICaIf5Ph4HQ&Dw3Ac2CgSuDtAc1K$DtAc1^;DtAc1OqDtAc1G*DtHqADp3Gk3JGc
  Cg3Cg1KgDtCg1G*DtA>Cg1KgDtA>Cg1OqDtA>CgA>CgMf71G*DtA>1K$DtA>1KgDtA>1OqDtA>1G*A>>Dt1K$A>>Dt1KgA>>
  Dt2Bh1OqA>>Dt1G*A>>EjDt1K$A>>EjDt1G*BhAn1KgBhAnA>Cg)>1OqBhAn>CgA>Ej1G*BhAc3HqADp3Dt1K$BhDt1^;BhD
  t1OqBhDt1G*Bh>4J>4HqAOf3A>3Cg1^:BhCg1G*A>BhDt1K$A>BhDt1AM)A>BhDtDd1^:A>BhDtMf5Dx5Su1YqA>BhDt1KgA
  >BhDt1OqA>BhDtMf51G*>An1Kg>1G*>Ac1K$>Ac1G*>HqADp3AcCgHs1^:>Cg1G*>CgDt3Dt3BhDt1K$>BhDt1AM)>BhDtDd
  1Yq>BhDt1Kg>BhDt1Oq>BhDtMf5Dx51K$>BhDtGk1ACv>BhDtJ>6Hs1^:>BhDtJ>Mf6Dx61KgA>Li1G*A>CgHs1KgA>CgHs1
  G*A>CgHsCgEn6J>6Gk5A>Gk5BAzGk5A>BJx4KyA>If6Gk4)4BCz4KaCgJ$1ACvA>CgKaCgJ$1G*A>CgKaCgSu4Ax1YqA>Cg4
  B;1KgA>CgB;4C%44c1OqA>CgMf4Dx41G*Cg3Vx3HsEn4J>4Gk3Ky3KxA>>4>Bh4BhDt3SuoH;3A&oH;3SuxH;4(H;3A&(HqA
  Of22Vx1JGbC)2Ns2Kx1FNnC)2Ns2Kx1I]kC)2Ns2Kx1AJtC)2Ns2Kx1BZaC)2Ns2Kx1B_wAVb2Kx1B^*C%C)2cC)2C%Ns2cN
  s2AGk1BG*C%C)2cC)2C%Ns2cNs2AGk1B^*BG*J<1G_bAcAnC%4c3AGk2AnAGk2AcAnJ<C%5c2HsyHsZz1OxTlXx1OwTlXx1O
  xC)Ifc4Bx4C%4Sc3O>Qm2tIf3O>Qm3J<4O>Qm2Ej2EkIfT,3O>Qm3J<4O>Qm2AAyc3Bx3C%2F>c3Bx3C%3BY:2Oic3Bx3C%2
  Hcc3Bx3C%2Vbc3Bx3C%2BVjc3Bx3C%1JGu~aC)3t3J<2|>C)3t3J<2AGn2]zAG$C)4t4Ek1G_aA|&c3Bx3C%3Sc2CAac3Bx3
  C%3Sc2KxA|&c4Bx4C%4Sc3CAac4Bx4C%4Sc1OwC)Ifc4Bx4C%4Sc3O>Qm2tIf3O>Qm3J<4O>Qm2Ej2EkIfT,3O>Qm3J<T,4O
  >Qm2AAy2F>c3Bx3C%2Oi2Hcc3Bx3C%2Vbc3Bx3C%2BVjc3Bx3C%1JGt|>C)3t3J<2~aC)3t3J<2AGn1OxKaF:c4Bx4C%4Sc3
  BJac4Bx4C%4Sc3JDwAxc5Bx2Ywc3Bx3C%2Klc3Bx3C%3ct2I:Katc5Bx5C%4Ekc5Bx5C%2KaW,If2PhEjc4Bx1~aC)2t2Ii1
  OxAGn2KaGhTnP(2YwGhTnP(2KlGhTnP(2I:GhTnP(1~aC)GhTnP(2tGhTnP(2J<GhTnP(1OxKaGhVh2YwGhVh2KlGhVh2I:G
  hVh1~aC)GhVh2tGhVh2J<GhVh1OxI:EnARvc5Bx5C%1OwKaGhRkc5C%2YwGhRkct5C%t5cEk5C%Ek2KlGhRkcC)5C%C)5ct5
  C%t2I:GhRkc5C%1|>C)GhRk2tGhRk2J<GhRk1OwKaGhQnc5C%2YwGhQnct5C%t5EkcEk6C%Ek2KlGhQncC)5C%C)5ct5C%t2
  I:GhQnc5C%1|>C)GhQn2tGhQn2J<GhQn1OwKac3Bx3C%3Sc3DUo2Ywc2Klc2I:AGz3c3C%1|>C)2t2J<1OwAGnUg1Ox]zAxc
  C)4BxC)4ct4Bxt1Ow]zAxGhP(cC)6BxC)6C%C)6ct6Bxt6C%t1OxO>AxTnC)5t1OwO>AxGhP(C)6t1OxTlNeC)4t1OwTlNeG
  hP(C)6t1E_eCwc3C%2FEg2B^h2AVi2BYc2IU*3J<2FBiHQ%AVz2FNg1Jz2IB*2OxIf3JEt2OwIf2OxKa2OwKa2T,Ax1AuBEi
  AFkZnKyAHo5AcB<An8AHo1BGnIfAc3Ix3An1E^eBGnIxAn3AnIx3AcIx3IxAc1FGkIx2Xx2Xe1JaB;2IYc2Fs1RwDIuC)3Ns
  1JaAoB;2~)B;2AoFs2JW(T,1RwJW=1FB%Ac2An2BG;1AL)If3t3J<1BGoIf3t3J<1AL)Ph1BGoPh1AL)BCa1BB$HZp2Ix2B_
  o1AViBB$Cp3>3Bs1BFk1ZnIx2Xx2CC;2JW)1AIuBApMf2I^mDx2DIxcBY;2I^lcBY;1BA*F_m2FBn1JfFsIx3Ky3Xx2AUe3X
  e3B;2BHj3Xe3B;2B;Ax3Ky3Xe3ARg4Xe4CDl3Wk4Xe4CDl2ADl3Ky3Xe2AVi3Ky3B_o1V,HYsAHq1AO&BlA&B,2B,A&Bl1Jf
  Xz2CC;C)3t1W<B_fMfFEf2GM$V,2M>KxV,3B~=J$Jf2J$JfBYc2G_cCZaDOu2DqB_fMf3J$Jf1JB*2T,2DdW<4T,3V,4T,2D
  IoV,1OxBLa1OwBLa1BSh1Vv1FBm1AGu^>IXw3HX,1JVyAGu^>BRo1FF)AGu^>BRo1AGuAHoGfJVx1JF=IfI]h2PhAAy1JF<J
  J;1B,BAsAHoGf^>F~=1GNbDUn2GL:2GL;2GL<2GL=2GL>2GMa2GMb1Tl1GN=I(1GN<I(1AO*FQ>2~*2ERf2JzBSh2JF;2GNc
  ESs1Dh1D,Cu1O:1Gd1Ev1+pM&BQ=2BQ>2BRa2BRb2BRc1+bBY:BQ=2BQ>2BRa2BRb2BRc2G^i2G^j2G^k2G^b2G^c2G^d2G^
  e2G^f2G^g2G^h0+_cD:cbAL<G(aJG:3CnH>Bk1bceCaBk1cbCnBn1bceAhaPe1cbAO$aEx)3CaBzaPe3CnOm3CaAaaCbK*gE
  x)3Boa)gEx)1bExPgaEx)1cbKcatAj7gIr3CaBoaIr1bC<G)CuaIr2AU%B*aIr2ceCaBn1cbAhaVp3ABmG(aG$)3AhaPegG$
  )3OmaG$)3CaAaaG$)3AaaVpgG$)3AHjG(aG$)3RxaG$)3ABmG(aEx)3ua*gEx)3naEx)3AHjG(aEx)3B*aEx)3AbaIr0+E<F
  cBIlbAI=3AJv3AWz3AMx3ALm3AXq3AX$3+bAXy3Y$3;Y$3u3ALk3AN$3AO)3_<3AQd3AQ>3AR<3AS;3AUd3AWn3AWu3AMj3A
  M;3+cATz3W=3]>3Ct3P,3AIg3AXl3+bFn3cG&3+bGb3YycG&3MsG&3YyMsG&3Vq0+ExHLhHZkBJ(bA*4Gt4HJs4Be4Aq4A,4
  Mn4HGw4C$4A)4Bd4Ee4HBv4HJy4At4Bi4C;4AQz4D$4HJ(4JKa4E%4A$4Jo4A:4HIp4Aw4CDc4HIn4ABp4HIo4By4BQ<4AFi
  4Bq4Jp4m4B&4u4l4n4Ed4q4Eu4Ci3+dJFv3JFz3JFy3JF%3JF$3JFx3JFw3fFfLn5JDf5AO*5C^g5F_*4AXgAXg3LtAD)3+c
  BgB(4s4o4x4(4:4Ae4Am4Af4Ar3+e_yHLc3DwC$0+HqJGabAw2B$2Be2Bi2At2Bq2A*2A,2Cs2Bd2C*2A:2Cy2Cx2Aq2A$2A
  )2u2],u2_f2],_f2l2q2],q2^s2],^s2n2F;2],F;2m1fN%Ch0+rJV$bB&2m2B$2C$2Bi2Bq2A:2Du2A)2A,2Aw2Be2Di2E%
  2Bd2Ct2Cx2Ee2Cy2D$2At2n2Cr2A$2A*2C=2Aq2q2u2Cs2l2GN(2Gt2AV>2BUo2CVv2N>2ANn2Dd2Ea2A_f2C;2JMr2J^,1C
  hCA:2JJn2AOg2GGi1BgB(2s2o2x2(2:2Ae2Am2Af2Ar1+fHEvf0+AA,AB*LtFR$2FR,2FR)2FR%2FR(2FR&2FR*2+bBI)BJs
  2FRz2FRy2FRx2+bBI)AEl3BRx3+bBXu3BXt3BXs3BBa3BA>3ADw3BM(3ADv3BI<3BI;3BI:3BHs3BHr3AFq3BXc0+bGXwGE;
  LtBOvJd3BOwAt3BOxJl3GQzAN;3GRrJc3GQ=_s3GQiHy3GTzGHm3BOyI;3BOzCy3BO$P*3GSkAH>3GScHv3GR=~:3GQfIh3G
  UcJX*3GS%CCw3GQvJYc3GQjJYa3GSxJYb3BO%AEg3BO&Je3BO(G_,3GQtSf3GRqWa3GTaBRr3GT<G_v3BO)L%3BO*B$3BO,J
  v3GS;Xn3GRtL$3GRzBAu3GSwOf3BO:u3BO;m3BO<l3GTjEu3GRwq3GTlEd3GS*n3GSvRr3GSpDx3GStDx3GUdF(3GTyEa3BP
  bI%3BPcBd3BPdJh3GTiWn3GSaIz3GSu~i3GRbId3GUeIUr3BPhKk3BPiA)3BPjH<3GRgAD&3GQ:Ma3GQoZb3GS>J&3GR,CbM
  a3BO=Jx3BO>Bi3BPaLe3GRlX(3GT$BEu3GT%Jk3BPeKt3BPfBe3BPgH&3GRn]b3GQpFq3GR$]f3GQ(y3BPkTt3BPlCx3BPmV
  $3GTdY&3GR<Os3GTgBLm3GQxPp3GTvCbPp3BPnHb3BPoA:3BPpFn3GR*]q3GRcLy3GSzAIi3GSfGb3BPqPk3BPrE%3BPsR$3
  GRaVo3GQ<Oo3GSrAMg3GRkPn3GUfFG:3GRxBGt3BPtAQt3BPuHAo3BPvEg3GSbAQj3GTpHH;3GTwG,3BPxAq3GT,M(3BPwAC
  y3GRsE&3BPy_a3GSyHm3GRfFQ=3GSmFVm3GQnBJw3GSoBJc3GRjBKd3GQmBJn3GUbANa3GQgFXa3GRmBSw3BPz|d3GReAQp3
  GR>BSu3GS)AQl3GTcAQo3GSeAQn3GTfHDn3GSlHDv3GRiCbAQl3GR&CbAQo3GT(CbAQn3GTbJb3GR:Bq3GToLh3GT=^%3GTm
  FN(3GTnFNz3GT)BSs3GQrBS&3GTxHEt3GQ&Ew3GRvAw3GQkNy3GRdSk3GQlEh3GRy|z3GQ$Ko3GS(APj3GQw_)3GSgAPn3GQ
  hAEa3GT;AEa3GQ,AD>3GTsAPm3GTuAPl3GT:GXa3GThCbAD>3GR%CbAPm3GS$CbAPl3GSqBMw3GRo_t3GQ;BMy3BP$BMv3GR
  )BMu3GR;BMx3GTeADq3GSiBH%3GQqAMq3GS,AMr3GRpBH$3GR(ACk3GQ*BH(3GQ)BH&3GTrA$3GShAQg3GSnZl3GSjAEp3GT
  >AQf3GSdAEo3GQ%BSf3GQyAQh3GS=BS=3GUaAQw3GS:|e3GSsBTd3GT&Sv3GT*D$3GS<Xc3GTtU=3GRhLx3GS&CCh3GQ>Q=3
  GTkHLm3GQsHLd3GTqHLx3GRuHLg3GQuHLs2+cBgs3o3x3(3:3Ae3Am3Af3Ar2FcDbJB)4AVh4ANd4U)4CcU)4ApU)4V>0+Ad
  CYpebAIw3BC<3AOp3BQ*3B$3B])3Eh3AAz3A$3q3E%3u3n3Eb3CDr3Fk3Eg3Gn3A:3l3BLd3H,3Aq3ASs3Bq3C;3H&3Zm3D$
  3C=3ACk3AIl3ADq3Ct1cbAIw3BC<3AOp3BQ*3B$3B])3Eh3AAz3A$3q3E%3u3n3Eb3CDr3Fk3Eg3Gn3A:3l3BLd3H,3Aq3AS
  s3Bq3C;3H&3Zm3D$3C=3ACk3AIl3ADq3Ct1AIwAD)1BbAD)1^&w1Fo1IjGp1FKdIjGp1Hz1AQcw1+eBgB(2s2o2x2(2:2Ae2
  Am2Af2Ar1+e;Hlw2G%w0+TzBKyB^aDbs3o3x3(3:3Ae3Am3Af3Ar3Cc3E)3I)3Kd3F)3K;3Fy3L*3Fh3sAp3oAp3xAp3(Ap3
  :Ap3AeAp3AmAp3AfAp3ArAp3sA(3oA(3xA(3(A(3:A(3AeA(3AmA(3AfA(3ArA(3CcA(3E)A(3I)A(3KdA(3F)A(3K;A(3Fy
  A(3L*A(3FhA(3AOq3GK&2AOqw2DbGCi3GCj3BW%s4o4x4(4:4Ae4Am4Af4Ar2AR;2JysF:4Ao3xMh2Wlw2DbIis4o4CcA(2I
  iAOqw0+BaHQ,B^aDbs3o3x3(3:3Ae3Am3Af3Ar3Cc3E)3I)3Kd3F)3K;3Fy3L*3Fh3sAp3oAp3xAp3(Ap3:Ap3AeAp3AmAp3
  AfAp3ArAp3sA(3oA(3xA(3(A(3:A(3AeA(3AmA(3AfA(3ArA(3CcA(3E)A(3I)A(3KdA(3F)A(3K;A(3FyA(3L*A(3FhA(2G
  V<2IiDbo4x4(4:4Ae4Am4Af4Ar4Cc4(Ap4AeAp4oA(4CcA(2JysAo4AT;0+EeJqZdA;2Ji2B>2Mx2+bFk2Mq2By2G<2A%2Gn
  2Fm2Ai2Fd2Hi2F%2Im2Io2Hp2Gj2J)2J*2O=2Dy2W*2Jw2P:2Kz2M$Ji3Fd3Im3Hp2+b;Ji3B>3+bGx3+cBy3+bA%3Gn3Fm3
  Ai3Fd3Hi3F%3Im3Io3Hp3+bJ)3J*3O=3Dy3+bJw3+bKz2+gB|uB>3+eBy3+bA%3+bFm3+bFd3Hi3F%3+bIo3Hp3+bJ)3+cDy
  3+bJw3+bKz3+bM$Fd4+bHp2+bAU%Ji3B>3+bGx3+cBy3G<3A%3Gn3+bAi3Fd3Hi3F%3Im3Io3Hp3+bJ)3J*3O=3Dy3+bJw3P
  :3Kz3M$Ji4+bIm2+bGOrA;3Ji3B>3Mx3Gx3Fk3Mq3By3G<3A%3+bFm3Ai3Fd3Hi3F%3Im3Io3Hp3Gj3J)3J*3O=3Dy3W*3Jw
  3P:3Kz2+fPiJi3B>3Mx3+bFk3Mq3By3G<3A%3+bFm3Ai3Fd3Hi3F%3Im3Io3Hp3Gj3J)3J*3O=3Dy3W*3Jw3P:3Kz2+AoEqA
  iaByaAHg3ByaMx0+GeGU<AVyDcP)2EtP)2D%P)2EcP)2NzTe2ToTe2%Te2s&Rm2o&Rm2x&Rm2(&Rm2:&Rm2Ae&Rm2Am&Rm2A
  f&Rm2Ar&Rm2s&Rh2o&Rh2x&Rh2(&Rh2:&Rh2Ae&Rh2Am&Rh2Af&Rh2Ar&Rh2s&Ne2o&Ne2x&Ne2(&Ne2:&Ne2Ae&Ne2Am&Ne
  2Af&Ne2Ar&Ne2HXd2HQo2AJe2DP)2IX;2I^r2C~i2JW>2ADd2Oc0+eEUaAVyBcOc2FVp2FVq2FVr2FVs2FVt2FVu2FVv2FVw
  2FVx2FVy2FVz2FV$2FV%2FV&2FV(2FV)2FV*2FV,2FV:2FV;2FV<2FV=2FV>2FWa2FWb2FWc2FWd2FWe2FWf2FWg2FWh2FWi
  2FWj2FWk2FWl2FWm2FWn2FWo2FWp2FWq2FWr2FWs2FWt2FWu2FWv2FWw2FWx2FWy2FWz2AdOc2JRc2JRd2JRe2JRf2JRg2JR
  h2JRi2JRj2JRk2JRl2JRm2JRn2JRo2JRp2JRq2JRr2JRs2JRt2JRu2JRv2JRw2JRx2JRy2JRz2JR$2JR%2JR&2JR(2JR)2JR
  *2JR,2JR:2JR;2JR<2JR=2JR>2JSa2JSb2JSc2JSd2JSe2JSf2JSg2JSh2JSi2JSj2JSk2JSl2JSm0+mBWo]<Oc2AAe&M<2o
  &M<2x&M<2(&M<2:&M<2Ae&M<2Am&M<2Af&M<2Ar&M<2Cc&M<2ADa&M<2G:&M<2Lo&M<2Kj&M<2+cAAe&K%2o&K%2x&K%2(&K
  %2:&K%2Ae&K%2Am&K%2Af&K%2Ar&K%2Cc&K%2ADa&K%2G:&K%2Lo&K%2Kj&K%2NzADd2+bAAe&Mz2o&Mz2x&Mz2(&Mz2:&Mz
  2Ae&Mz2Am&Mz2Af&Mz2Ar&Mz2Cc&Mz2ADa&Mz2G:&Mz2Lo&Mz2Kj&Mz2zADd2+bAAe&Mv2o&Mv2x&Mv2(&Mv2:&Mv2Ae&Mv2
  Am&Mv2Af&Mv2Ar&Mv2Cc&Mv2ADa&Mv2G:&Mv2Lo&Mv2Kj&Mv2%ADd2FGe2JHk2JHv2JHy2JHz2JH$2JH%2JH&2JH(2JH)2JH
  l2JHm2JHn2JHo2JHp2JHq2JHr2JHs2JHt2JHu2JHw2JHx0+kBgB(D,Cu2Dh1sDh1oDh1xDh1(Dh1:Dh1AeDh1AmDh1AfDh1A
  rDh0BEhDwIpBgB(1McDwIpBgB(0DwB(aLs1J=h1VkfaARhVe0AFaD:ebm4Ce4B*4Bw4q4C&4Bk4Bt4u4Cq4Bn4Ah4A<4Az4n
  4B=4Dl4Aa4Ab4Bo4l4Bp4Ci4Cd4Bz4B:0KuIcBA&D:ebAb0DwPoD:ebB*5Aa1BBp1JYd0EKx,0FwD:ebm4Ce4B*4Bw4q4C&4
  Bk4Bt4u4Cq4Bn4Ah4A<4Az4n4B=4Dl4Aa4Ab4Bo4l4Bp4Ci4Cd4Bz4B:1AC(1_;1IIi1AG(1HYj1CCt0McDwD:ebm5Ce5B*5
  Bw5q5C&5Bk5Bt5u5Cq5Bn5Ah5A<5Az5n5B=5Dl5Aa5Ab5Bo5l5Bp5Ci5Cd5Bz5B:0HqBQhf1GXbf1G_hf0DwBBo1B*aARhVe
  1ANcAB>0McFwD:ebm5Ce5B*5Bw5q5C&5Bk5Bt5u5Cq5Bn5Ah5A<5Az5n5B=5Dl5Aa5Ab5Bo5l5Bp5Ci5Cd5Bz5B:0NgMcFwD
  :ebB=0McFwANg2Aw2Bd2Re2CCt0AvETr0FwDQ&1EKt1AMi1FZx1|c1K,1AE*1IW=1AcaHlw1JT;1xBw1Wm~d1oBn1(Bn1AfB
  n1:Nvs1AmNvs1AWqNvo1K;B=1sApE)B=1D:cbBw1FQs1FQt1FSc1GOw1IUc1JMv1JTq0APhAXd,0+AsH~:Ts,bm4Ce4B*4Bw
  4q4C&4Bk4Bt4u4Cq4Bn4Ah4A<4Az4n4B=4Dl4Aa4Ab4Bo4l4Bp4Ci4Cd4Bz4B:0AvYsFVe0FwPqGGk2Bd1+n^cAWvF]g3F]c
  3FZ,1PqIs1^cAWvBKq3F]a3F]%3F]b3FZ$3F]n3F]u3F]l3FZ(3F]f3FZ%3F]m3FZ&3F]$3F]v3F]&3FZ>3FZ<3F]s3F]h3F
  ]j3FZy3BKp3F])3F]e3FZz3FZ:3F]i3F](3BKr3F]y3F]z3FZ;3F]r3F]p3F]o3F]w3FZ)3FZ=3F]*0+eKuIcBA&^cAWvF]q
  5BKp5BKq5F]d5F]t5BKr5F]x5FZ*5F]k0+hDwAC:CYu2CYc0+oQy,FfR$3H<3ITo3Mo3ITz3DL:0+DcEMc0FF=0Fs~x0AEua
  IZr0I^tA&G^=10BCcH)E^(0I^uA&BA<0H|<0XsH)AEu0N;I:0JTu0G]f~(0M%BImFBf2C]t2C|i0BImaGX&0|cHo,0CCsX$H
  o,0RzF:Ho,0CCsBIkHo,0D,Ho,0CClBIkHo,0AOsF:Ho,0CClX$Ho,0X$Ho0|cHoaAu0RzF:HoaAu0AOsF:HoaAu0D,HoaAu
  0P$aAu0FMuDo0ITaDo0B~j0zBE,0%P$2acXw2A~%Xw4aWj0XwaWj2AUf2AD*2JF:0FF<0P)BApAu0_bX;0JAm0DKo0DO;0II
  v0FBhQ;0EQuQ;0|sQ;0DL(0_bBVt0JJf0DO,BAo0IC&0FSd0I^s0BAo0X>&GVf2|:0FRk0(IvDRj0GVzIv0FD>Iv0IvBG;Dx
  P)0G|j0JFs0C|<0FNl0BQo0JWa0JA)0GL,0DFt0HWs0NzA|j0ToA|j0HUa0HT<0DO*0I]e0FP$0B^g&HW$0AEcDdAA%0HYaK
  *0|:ELe1Od0EKr|:0EL)g|:0IZxAJo0IXi0BA)0BHhFG*0ICqB_%BWy0EPm0HPp0I^<0FG)B]o0QlAJ%aAU>ERo0M;TqBCp0
  ISfTq0TqBCp0E]>0BCm0DPuAj0DMf0GOf0EL:0FVhAFm0ITk0DHmHc0AFm&ACe0EKs0ACgg_r0JBw~,BJd0IGyAA&g^h0AIc
  Yo0DUcYo0CApBE(0A~yAP(0BCeA~yG_w0XlAA&0ACgg_raHW:0AA&aHX&EKz0HX$0AF,0JXyHYr0DIgAJ%0F|u0AJ=Q;0BGu
  AJ=0FFg0FFfIXj0AJc0ARuHX%0EJ=Od0JA&Q;0NgFFx0HWrBD$0VyBEs0DMwI]f0P)DPi0HoJS:DN>0ATgIHq0FNhAA)0Gwa
  M>DdFjk0BA$&FF*0APv_,0IAjAF,0Oy_naF|v0I]zBQy0BNyIV<0AKoGF;0A~tA|sOy|i1ALaOy|i0BGzFGz0CYrJEj0DMvR
  :0FEuAIb0BY(DUa0FFj|ygQl0BQy0G_dAJ)0DQt0FQ)0C_=HR>0EyVw0DQwAVj0JEi0DQ*]*0HUuA|r0CCbBHv0ALgBJz0IW
  cAPb0DIb0BHvALd0DJe0^xBWoDMr0OyJn0NsOy|i0IH&0FN,0Oy_n0JH*0JTb0OyIIa0AS>IS*aIHp0B~bBXzgOd0B^fgB^f
  BAx0DF=gFVk0DO)Op0IWm0IEa0I^,0IX)_,0JHj0R:BXy0C]sBG>0ID(BG>0I_f0CCxGM,0FM(0BXyG^,1S:0BCqAJggOd0J
  Tv0BGyBJ)AG=gOd0TqBJ)AG=gHZo0AVcB~bHR$gOd0AUfDMnT*0DMc0DG,a~x0]:AKl0_cBA<0BCc0ERh_c]:0DQ:]:0ERm1
  F|k0BR>HTf0IZj0_c]:1aFJq0AQ=]:0VyASbAQ=0BGlASbAQ=0FW%0AJf0C~hJB>APb0BJ>0AO:BJ>0EKpB_h0ATg0EReB_h
  0FD(0F|tGK<0VyAJ,0BGlAJ,0%BVp0zBVp0CCp%Op1zOp0AS=0zAS=0GJj0DFdBXzgIUa0Xrgh0C]v0BF(GpFFmJKj3CBi3C
  Bj3CBk3CBl0AFz0Wb0AE;0N;DJ;0^f0AHm0GMd0BXx0Oh0Te0ELi0CCy0IWj0AGz0R:0AFy0FMy0ATr0_:0IC$0DPb0X;0AF
  h0BAq0ALv0HPo0AG$Ic0DJ<0C^n0FVi0GJqA~z0Ql0CApQl0DIy0~t0FQiAJ;0XlAJ;0FG,XlAJ;0AA$0HUl0GGd0HXy0E^g
  BBf0DFbBBf0ET=0WbAu0^fAu0AHmAu0BXxAu0OhAu0TeAu0IX,CCy0R:Au0_:Au0X;Au0AFhAu0AMkAu0FP&Au0JXkAu0A~u
  Au0HSpAu0AFhZn0BVgHYx0DPl0Ja0Rw0X>0Zn0Jf0W<0%AcDaS&A>1AnDaS&A>1kDaS&A>1iDaS&A>0FFkGgf0CCpGgf0AE*
  Ggf0B~oAcf1Anf0DQ,R)f0B;R)f0BCv0AXaVw0FB$0HCu0I|*0F|,0BE&0GE=0DH>0AXaAKe0HZ(0FP)0HX>0GVtWq0C|xWq
  0FSoWq0AXaBZq1DI(0FGf0DKsDxAGv0DKtDxAGv0DJg0FMi0Je0U>0BGs0JegU>YtR)0oSfYtR)1JXlYtR)0AFjHPt0U>aDK
  hBFk0DJvaJQ;0LnaDIwVv0JeaFNyEwGVy2CA;0BUiJe1U>0Xl0AKlJXq0HYw0VyHPw1FMz0AMu0XlC]*0FBwA_$0A_$G^v0F
  ^,0AUa0ANmERpLn0FN&0EPk0GNs0HAlAR=0AuGWi0FPr0DF&|y0I|n0HWm0ADlw0AO:b0Bh0FKcAUx0ADl0BA$0ELaaGw0JW
  j0DG>Gw0XtGw0oK%0IXlGw0FNwGw0Gwah0S)Gw0ToGw0~<Gw0ASmGw0GwaAF,0BYiK%0GwBD$0E;ISbamvJ$0ABzBaDKa0AI
  $,0DI%0AUb,0DUj,0IXzAHd,0BE,0E$,0HWl&|z0FF&DH(0BEo,0WvAJc0AVqAJc0%^x0ApHXr,0BRdAAr0^iFBl0=Vkf0AK
  s]<0DFya~=f2Vkf2BGkf2AFnf0BRdaJW;0AA:aBvAWbg~=f0IIq0BVxAKk0DJw0G]k0ACc^m0BUrABn0E^;0^vVr0B;^vVr0
  SjaIr1BGrAc0AJ&0JBzAJ&0]<A>0AA:aBvAWb2BjAWb0AjAA:0DRe0ASn0O*ASn0HS<0IfBZb0I*BZb0BAvJAl0GLv0HIg1a
  EQwAKq0FsXq0B;Xq0ToXq0S)Xq0ZoXq0DI&0_=DFc0IIf0GXv0O<AF%0HR&0AL:APb0BZtA_>0HZnCYlGO$0DOwGXo0HQ;CA
  e0F^>CAe0HRy0E_r,0F_cRt0RtaBjhj0FsBP,aBOiOp3HqOp0B;BP,aHqOp3BOiOp0HX:0AFlFx0BSp0AEiAR%2a<hH)k0JS
  yG],0AEiAR%HPs0E<AEiHVx0A_>aAAw0AJ)1aFFz0CCbAJ)0JB=0BX&0JSz0BGzHY,0HX)IZ$0HYlDG:0JJ:<Lc0Nf<gAlB;
  AxLc7aDwsIn1BjgBvB;AxLc0J=BjgBvB;AxLc0BsBA:,0CpBA:,0B^xaAA(*11asK=I:2xK=AW:0A~m0ABzHXb0JmBP)Yo0H
  =BP)Yo0AD:aF_pZr0FsAD:aSb0Sb0AD:0B;AD:0Xo1aAA(*0BAv0BN;,0BX&Xu0OcaAlhj0GmaAlhj0DdaHlwakihj0IW*a<
  hj0EyaBvhj0E<sSuRs,0BL;Cc0F_t,FfD:eAOz4cAOz3HKy3AVb3D:AOz0Pm0ABzJF,0CC:0ACu0BTxgAJn0FVc0HWy0GZx0
  JB<0ELtOd0AeFvDoa>v0Vy,FfDHf0AHwE~z0zAvXu0%AvXu0C%NzAx1S)Ax1ZoE;1S)E;0cZoE;1S)E;0NcNzBm0OkNzBm0N
  ccNzBm0OkcNzBm0BliN&%Ax0B,iN&%Ax0DwEjBWw0EjBWwaBJap20Sgk~eaxAy1i~eaxAy0,FfGV;DOp0%D:Ej0=D:Ej0DN%
  Ej0Nt,0BEx&ARw0GBp0G^(0I|g0GXzaArDJp0AJo&FYh0ABcAusO$2oO$2xO$2(O$2:O$2AeO$2AmO$2AfO$2ArO$2CcO$2O
  lO$2NbO$2HP*2JJ>2JDx2FGw2FFo2IVq2IP<2E~f2HFt2JCe2E~t2JJ&0iB^x2asK=I:3xK=AW:0DKc1aK=AW:0IB=Xo0Xq0
  DMe0GVwABc0zAUagBCt0E<HWv0BJ,0JeDxDKqSqGMn0IV:B<IYb0BDiB_t0IXv1JWi0GAf0JeEPl0kGgO<AF%0O<AF%aSj0i
  GgO<AF%0%B~>O<0zB~>O<0O<DdEy&G]<0DQ)AEiAR%0Oc&Rt0B_aRt0RtaAD*0AMeRt0ZrA&B_aRt0GNpHS=0zASn0BlkAFc
  2DFsZr2BHdZr2HR,2ELf0kCC<Gg0CaAE*Ggf0HqGgaH;B^&0CnHqGgaH;B^&1B~oAcf2Anf1CB>Gg1Gga>TlTj0HqGgaARtK
  x>gBhH;0%AnDakGgA>0So%kDaA>2iDaA>1zkDaA>2iDaA>0zkDaS&A>1iDaS&A>0So%AcDaA>2AnDaA>1zAcDaA>2AnDaA>0
  zAcDaS&A>1AnDaS&A>1Gw0BD;AKk0_ngWb0xHC)EJ:0BW*0HXkDL=0zQpIcACc^m0%QpIcACc^m0M;IcACc^m0B|%DM$0JXa
  _n0sXuWb0oXuWb0xXuWb0JGi0DzBVxAKk0Qp^m0~d0BW*ANh0AL:ANh0BUrABnANh0ALnaUz3gAR&2AR&0BHgaAR&2JEs2F(
  Cd0zVr0Vr0B;Vr0]<A>ETl1^vHc0^vDL%0VlJn2Sj2|r0Jn1Sj1|r0VlALn1Sj1BU(0ALn0Sj0BU(0JV<0AG$Jn|r1AJ&|r0
  BD;CC%0G]l0GWt0ARi0Nfigk~eLc0AA(Cd0ANlBG=B^b,0BD%BG=B^b,0EJ,0DzSb0ICwBSp0SjaDwUz0AUwAA:0X&_r0V,0
  IXpJzDxAGv0xZuj2p2k2i0kWvRi0iWvRi0oWvAJu0xWvAJu0kAVqRi0iAVqRi0kAI$Ri0iAI$Ri0BRiRi0AD*BRiRi20VfHc
  aVf1H>Cd1HcaH>Cd1GuH>Cd1HcaGuH>Cd0BaOiw0VfHcaGuOi0JXr_%0G^<FG=0JFqJGf0IZu&GMy0AGv&F|%0G_f0AM$Au2
  aK<Ja0AuaAVg&ANz0K<AuaB;Jf5gK<Ja6AKhAHd6B~qJa3FPx3BJ<0CC(Au0K<AuaK<Ja0AuIHyEQ,ACe0BYdAu0K<AuaBJk
  Ja3B_t0IWhAu0IxAu0FBtAu0JM;Au0AuaAKhAHd0HUoAu0EKbAu0EKaAu0AOcAu0AuJDymADl0AOcAuaK<Ja3FsJa0AuaI]y
  W<4gCC(Rw5B~qJa0BElAu0JXtAu0C];Au0AScAu0AKtAu0HUxAu0AuaGOp&JHb0BElQdBYdAu0ACiAuaB;Jf0C]=Au0FElAu
  0CCuAu0IV,Au0JE&Au0FNuAu0GOzAKtAu0AuaB;Jf0FXoAu0AuaB;JfgAKhAHd1IIdDxFEk0C|qAu0FF:Au0AUbAu0BEoAu0
  Au~,Jf1aGXjAPh0AM$OhAuaK<Ja0OhAuaAVg&ANz0K<OhAuaB;Jf4BJkJa0OhAuaJX&AUe0AOcOhAuaFsJa0AScOhAu0AKtO
  hAu0CCuOhAu0AUcACiAu1K<Au0JNrAu0AuaBY)Ja2E<FM:BIa2AE*BIa0LnDJdEQz0IIu_:0FQ,_:0IXo_:0FQbLnBX(sGg0
  LnBX(BAzR)DxDNz1ACi1aAScAu2FF>R)0EcD%DaIv0EtD%DaIv0EcDcDaIv0EtDcDaIv0CaEcD%DaIv1EtD%DaIv1EcDcDaI
  v1EtDcDaIv0EcD%DaSwIv0EtD%DaSwIv0EcDcDaSwIv0EtDcDaSwIv0=EcD%DaSwIv1EtD%DaSwIv1EcDcDaSwIv1EtDcDaS
  wIv0EcD%DaS*0EtD%DaS*0EcDcDaS*0EtDcDaS*0=EcD%DaS*1EtD%DaS*1EcDcDaS*1EtDcDaS*0FVfBXpAvD*4DxzAv0IW
  $BXpAvD*4DxzAv0Al|;0Bv|;0<|;0Bj|;0H>F*NjD*0=H>F*NjD*0F*B;NjD*0=F*B;NjD*1S$D*0]aS$D*0Ip=tCaDhGrwD
  *3DhGrwD*2BstDhGrwD*0=_eD*0Ip_eD*0=Ip_eD*0G>=Ie2JgIe0AA;]*0JgAA;]*0|;0FRc0B_eBOd0AFxS:0FSqCAc2aM
  tZn0CAc0GYd0BaH|;0IZt0JGn1S:0AJy0|nAJy0JHe0AJyCu0G]j0C]r0PmBF;0AFjS:0|nAFjS:0B|(0|nB|(0A|%0|nA|%
  0H~&JQ:0EQ;AWd0C_<GOu0JGj0G^t0T*AFx0AU:AFx0T*DL&0CY%JGo0ATu0IC,0IXq0Bc~qBa0Ad~qBa0AKlf0AFjDMzBYi
  Ba0I*OpDdASb0BEv0E<ALyf0B^l,0E<B^l,0ASoBOaDxF|nWg,0JkDkBOa,0HX<N;,0HH>N;,0DH)0E<DH*0A~:0T*A~:0BV
  m0E<HUb0DPgGe0GX$,0JXm,0IAy0Xl,0JFp0N;DRh0ITq0A~k0A~l0HTtAKo0EL<0DFhDQ(0kBOl0BmaQyXz0HY(f0DwANmA
  Uk0DJh,0FMj,0EK:gBNe0AUbCYd0B]lDFi0DHjXo0DHb0Wg&JXu0HPmf0B]lJHd0I]%0HR(0FSsJCc0FXp0E~r0+fHW;IV;0
  AIb0BhDKl0ACugCC:0ATt0AE)^n0G^;0AFxCAb0BRmBAr0NcAPvVc1Vc1cVc0cVc0HIeVc0VcBD:1C_(0+dBZt0|nPmBF;0E
  SlBOd0HTpATu0BZw0BRmBZw0DMj0IV)0AMeIHu0IVv0C~gIBi0HV,AWd0BY(B^e0+dCZ>,FfH^)3AIu3Pm3M%3N;3C^<3C^;
  H~*4H~,4JTi4JTj3CCd3JS>3JTa3AU*3HVrAU*3zAU*3BQq~j4I^h4I^i3DQu3Qz3HF%3JTl3JTm3BY%Qz4IG>3ACp3IU(3A
  NsWe4HQp3BCr&ANs3BYb&ANs3XyWe3F|dWe3~j&Xy3BCr&Xy5EKv3XyA|a3Qz&XyA|a3~j&Qz&Xy3JQ>3JEvWe3GLrWe3XiW
  e3~j&Xi3Qz&Xi3~j&Qz&Xi3CCd&Xi3BYb&Xi5C^s43H~<3H~=3H~>3C]e3C]f3GV%3IG)3C_*3H~v3H~w3C~e3DIlWe3JA=3
  JA>3H^$GNe3DI*3DI,3DI:3C]n3AE)3AUm3JEx3BI&3CCr3HYd3DL>3JJw3DMqG^&3IH;&GAc3BBd3AHw3IZqAHw3GOa3B^n
  3JNx3R:BE;3A|t3AFmA|t3AJr3HYeAJr3C]o3B_iI^zB_i5I]c3I^j3HYn3ETe3ETc3ETd3HZ$3HZ;3ELl3ELm3ELn3ELo3E
  Lp3A_x3A~k&GWd5JQt3IA$3BKa3AEu3EPx3APz3AoBEz4BUv0+mzJmAC=iBm1NcAC=iBm1H=AC=iBm1OkAC=iBm1AUccAx0B
  xGu%Ax0Gu%Ax0=%Ax0G>=%Ax0Yg=%Ax0%AxVizcAx0O*AVe0z~oAv1AUccAv0Ba%Av0Bx%Av0Gu%Av0=%Av0G>=%Av0Yg=%A
  v0%AvVizG>cAv4BxAv0AvAVe0z~oE;1G>cE;1BxcE;0%E;VizG>cE;4BxE;0E;AVe0z~oNp1G>cNp1BxcNp0%NpVizcNp0AH
  lHxEj0BaHxEj0BxHxEj0GuHxEj0G>GuHxEj1=HxEj0Yg=HxEj0AHlPw0BaPw0BxPw0GuPw0=Pw0G>=Pw0Yg=Pw0Ba:KrEi0B
  x:KrEi0Gu:KrEi0=:KrEi0G>=:KrEi0Yg=:KrEi0BaAeKrEi0BxAeKrEi0GuAeKrEi0=AeKrEi0G>=AeKrEi0Yg=AeKrEi0B
  aAfKrEi0BxAfKrEi0GuAfKrEi0=AfKrEi0G>=AfKrEi0BaxFvzDo0BxxFvzDo0xFvzDo0BxxFvSlDo0Ba(FvzDo0Bx(FvzDo
  0(FvzDo0Bx(FvSlDo0JgBa(FvSlDo0Ba:FvzDo0=:FvzDo0BxAeFvzDo0=AeFvzDo0AeFvSlDo0BxAfFvzDo0=AfFvzDo0G>
  =AfFvzDo0=AfFvSlDo0BaNbFvzDo0=NbFvzDo3SlDo0DwBm0McDwBm0DwAv0McDwAv0+hC%ZoAx1~<Ax1ToAx1ASmAx1AJsA
  x1NzAv1S)Av1ZoAv1~<Av1ToAv1ASmAv1AJsAv0+e=Ftf0+pAlhacBmCw0BvhacBmCw0<hacBmCw0BjhacBmCw0AlhaBxBmC
  w0BvhaBxBmCw0<haBxBmCw0BjhaBxBmCw0AlhaC%BmCw0BvhaC%BmCw0<haC%BmCw0BjhaC%BmCw0+eAlhacH:Cw0BvhacH:
  Cw0<hacH:Cw0BjhacH:Cw0AlhaH:Cw0BvhaH:Cw0<haH:Cw0BjhaH:Cw0=AlhaH:Cw1BvhaH:Cw1<haH:Cw1BjhaH:Cw1Alh
  aC%H:Cw1BvhaC%H:Cw1<haC%H:Cw1BjhaC%H:Cw0AlCzhaZkI$0BvCzhaZkI$0<CzhaZkI$0BjCzhaZkI$0AlCzhaBxI$0Bv
  CzhaBxI$0<CzhaBxI$0BjCzhaBxI$0AlCzhaGuI$0BvCzhaGuI$0<CzhaGuI$0BjCzhaGuI$0AlCzha=I$0BvCzha=I$0<Cz
  ha=I$0BjCzha=I$0AlCzhaG>=I$0BvCzhaG>=I$0<CzhaG>=I$0BjCzhaG>=I$0AlACah0BvACah0<ACah0BjACah0AlFwh0
  BvFwh0<Fwh0BjFwh0AlS=h0BvS=h0<S=h0BjS=h0Al=S=h0Bv=S=h0<=S=h0Bj=S=h0Al=h0Bv=h0<=h0Bj=h0+iAlIph0Bv
  Iph0<Iph0BjIph0EcD%Iph1DcIph0EtDcIph1D%Iph0kiIph0AcAnIph0+gCCzAlBaBrh1BvBaBrh1<BaBrh1BjBaBrh1EcD
  %BaBrh2DcBaBrh1EtDcBaBrh2D%BaBrh1AlBrh1BvBrh1<Brh1BjBrh1EcD%Brh2DcBrh1EtDcBrh2D%Brh1AlBxBrh1BvBx
  Brh1<BxBrh1BjBxBrh1EcD%BxBrh2DcBxBrh1EtDcBxBrh2D%BxBrh1Al=Brh1Bv=Brh1<=Brh1Bj=Brh1EcD%=Brh2Dc=Br
  h1EtDc=Brh2D%=Brh1AlG>=Brh1BvG>=Brh1<G>=Brh1BjG>=Brh1EcD%G>=Brh2DcG>=Brh1EtDcG>=Brh2D%G>=Brh0+iA
  lBmCw0BvBmCw0<BmCw0BjBmCw0Al%hXdBmCw0Bv%hXdBmCw0<%hXdBmCw0Bj%hXdBmCw0AlhaSgDv0BvhaSgDv0<haSgDv0B
  jhaSgDv0=hI$~*s4oSs4sAo5N,0AlDJb%h0<F<ATp%h0AlEyATp%h0<EyATp%h0AlAOx%h0<AS,%h0AlAS,%h0<AOx%h0AlA
  I>N&%h0<AI>N&%h0AlAMlN&%h0<AMlN&%h0%hI$~*s4oSs0+chDaBvW,EcD%2<W,AKxEtD%0+BcDwEjFGoa(Ay4oAy30kAoA
  xa(Ay4xAy4oAy4v30E^bBGr)2Sg)2)av2Sg)av0HWpH;0%Gw0AJsGw0HWqGg0KBmAu0G^pAu0AuaB~j0HC%Au0JDgAu0AuaF
  Q&0ICsAu0BKcAu0f&FjBJ<0AJ(GoGg0HqOc&Gg0AD(AMa0AGaAMa0FP:0GgaA>g>H;Ng0uAO:J_qGgf0AuaELbVw0DRkAu0H
  A%Au0BY)DdFjQnGLh0E^hAu0GPoAu0Au|s0IWlAu0AuasFBzHq0AM$AuaDoJa3sC%gscRw0AuaTlAKrFsV,0IP&AuaAVbAKr
  Jf0K<AuaK<JagGgAKrJf0AuaB;JfJTz0IS;AuaFBrJz0BW&U>0DJs0HSdAcAHq0IPq0HYv0JeDxJJz0BRlAJ=0ITy0LnET,D
  M%0GAk0FEs0G]=HUq0JX$0N;HXv0FP*0ETnAPh0JW,^x0^naE^k0BCeFMp0JJhYo0AUn0ACoAQk0IBy0RzWg_,0WmWg_,0N,
  Wg_,0DJfFMs0GWaA|rJNh0EL(AUx0GJoAG=gOd0IWx0AMeABn0ELj0C~n0ELv0DFa0BWy0DMy0DFjBA)0ToIG:0IR<ARn&AC
  e0I]$BG(0BFp0Yo&G]e0HT>0GFl0HSo0E^r0FGrBCm0JAvHc0DPy0AJoaAUn0^haI]d0DUd0DJz0BV;0HYt0AKy&AEc0IHh0
  DMiACe0GLtTo0GVp0HoAJ%0DFg0K<AuaK<JagxK%0J^bAu0K<AuaJBy0AuaARuFxgARuVw2JNeJagRaJf0HQ=Au0FG&Au0HF
  u0ES>Au0AuYtOcAVg1aHW<Ja0BZs0GJhBCg0FM$0FSrBAx0YjWq0ELd0GNrAu0IIb0JJo0JNgAu0BFj0E^m0AJg0ISe0HRa0
  BHeAu0DKv0AK<0FNa0GN$0IA<0B]o0IYd0FMhAu0KAeAu0FQ<0IHx0I|)0BCq0GB=0GN%0HT=0FSt0HTg0H|y0GN;0G^)0GZ
  w0A~f0I_d0GVk0ET)0IWd0HQ*0HQn0IVz0FFy0HRd0A~w0DIm0ATh0FN*X;0HY$DMg0BF(DUxNzVv2HjVv2DFp2%Vv0AA%0K
  *0ACf0AHt0I^%0I^(0ATaJSo0X>aFQ:CZn0G^:AW=0GVxAW=0GXf]z1K*0DOxJWk0ELz0QzIR:0A~)Hc0FJr0HP;0FD=0JVv
  0DKu0GWmBE(0TqAKv0RiJBv0JHc0IZnLn0GF:Ln0EQqLn0AuaG^s0A_m0AJ<0BUiA_m0DG=Ln0LnaFQ*1DxIZyICz1DRc1Dx
  AD<AFk0GU(0FD;0JQr0GX*0E~u0FKh0KBu0DJn0ZoGw0DIaAA)0IH:0FMt0BCg0IWw0NzFMaRt0FFe0F~kHZ>Ui0JClJJc0H
  U,Il0ET%tFRd0DUt0CX;0PmFBu0JF(0AJr0GU*0BOl0GOyAA&0IX(&AVr0Od&J](0ATaBWe0JB&A~u0DJ%0DF<0ICv&AE=0A
  j&B^n0IX&0H~x0HA,C]x0IxF=Kj2Lo2O)2Oe2G:2O%0%F=G:DeAMhD(0zF=G:DeAMhD(0IxF=G:DeAMhD(0%F=KjDeFhD(2L
  oDeFhD(2O)DeFhD(2OeDeFhD(2G:DeFhD(2O%DeFhD(0zF=KjDeFhD(2LoDeFhD(2O)DeFhD(2OeDeFhD(2G:DeFhD(2O%De
  FhD(0IxF=KjDeFhD(2LoDeFhD(2O)DeFhD(2OeDeFhD(2G:DeFhD(2O%DeFhD(0%F=G:DesApAVnD(0zF=G:DesApAVnD(0I
  xF=G:DesApAVnD(0%F=CaKj3Lo3O)3Oe3G:3O%0zF=CaKj3Lo3O)3Oe3G:3O%0IxF=CaKj3Lo3O)3Oe3G:3O%0%F=G:DeoAp
  AH&D(0zF=G:DeoApAH&D(0IxF=G:DeoApAH&D(0%F=KjDeoApFyD(2LoDeoApFyD(2O)DeoApFyD(2OeDeoApFyD(2G:DeoA
  pFyD(2O%DeoApFyD(0zF=KjDeoApFyD(2LoDeoApFyD(2O)DeoApFyD(2OeDeoApFyD(2G:DeoApFyD(2O%DeoApFyD(0IxF
  =KjDeoApFyD(2LoDeoApFyD(2O)DeoApFyD(2OeDeoApFyD(2G:DeoApFyD(2O%DeoApFyD(0%F=G:DexApPlD(0zF=G:Dex
  ApPlD(0IxF=G:DexApPlD(0%F=Yd0zF=Yd0IxF=Yd0%F=YdDeFhD(0zF=YdDeFhD(0IxF=YdDeFhD(0%F=BMm2BMn2BMl0zF
  =BMm2BMn2BMl0+mJY&NzBH,2BP;2ALv2R:2]=2BBh2B^q1zBH,2BP;2ALv2R:2]=2BBh2B^q0+cDFrIS<0HP)I_h0DJx0ATy
  0B~mBZq0+dE^i&BAn0CYnDFv0IZ%0JYe0ELr0+dJ_l0GFi0HTa0BAw0GU)JV%0HWo0HC(BEs0+jIB<HW*0BBx0H~m0AI;0ET
  qBNe0DFx0APvACz0CYe0Cb^n0DUh0BBiATe0IIe0GJp0)0BQ;0CC%0HXf0IQaHCv0GF<0DJ,0WbJGr0JF*0BJj0HW&0BY%0B
  Q;Od0BKo]<0BsA~m0FP%0+dAMd0JXs0A~z0DUb0HX=HW,0AXc0AB=0AD<0EKy0VlBSm0BSmaE~b0+fC]%Gw0GO<0BVrBKc0B
  W&Je1Ln0LnaBCv0+kDIz0XoBVt0BUk0BG(0JAz0FGc0JBx0HYbBN<0DG<0BK>0+gGXtAu0IHaAu0AuaB;JagGgA&Jf2HUdRw
  2EnJf0FeC:Au0BAbAO&0AJu0+iGgaA>TlgCgNg0<Gg0AlGg0|sAnGg1AcGg0A>DaH)FjJS,0GwR)0+jDmIQd1IQ:1IQe1IRk
  1IQt1IQ;1IQf1IRs1IQ$1IRe1IQm1IRl1IQu1IQ<1IQg1IRw1IQ)1IRh1IQq1IRp1IRb1IQj1IRt1IQ%1IRf1IQn1IRm1IQv
  1IQ=1IQh1IRy1IQ,1IRj1IQs1IRr1IQz1IRd1IQl1IRv1IQ(1IQp1IRo1IQx1IRa1IQi1IRx1IQ*1IRi1IQr1IRq1IQy1IRc
  1IQk1IRu1IQ&1IRg1IQo1IRn1IQw1IQ>0BlkDmEnBl>kyBlDq9i4B,>kyBlDq9i5kyBlDq1iDmEnB,>kyB,Dq9i4Bl>kyB,D
  q9i5kyB,Dq5>kyB,>i5DqyBl>i5kyBl>i5DqyB,>i5kyB,>i5DqyB,i1kDmEnB,DqyB,>i5kyB,>i5DqyBl>i5kyBl>i5Dqy
  Bli5>kyBl>i0B,iDmEnBl>kyBlDq9i4B,>kyBlDq9i5kyBlDq1kDmEnB,>kyB,Dq9i4Bl>kyB,Dq9i5kyB,Dq5>kyB,>i5Dq
  yBl>i5kyBl>i5DqyB,>i5kyB,>i5DqyB,i1iDmEnB,DqyB,>i5kyB,>i5DqyBl>i5kyBl>i5DqyBli5>kyBl>i1gigBlI*xM
  hDm0kgBlgiI*xMhDm0B,gkgBlI*xMhDm0kgB,giI*xMhDm1I*sF:Dm0B,I*sF:Dm0iI*sF:Dm0BlI*sF:Dm0AdsHdBAh3BAi
  3BAj3BAk3BAl3BAm0BcsHdBAh3BAi3BAj3BAk3BAl3BAm0kgBlsHdDm2B,sHdDm0igB,sHdDm2BlsHdDm0B,gBlsHdDm0Bcs
  HdDIv0B,sF:Dm1xL)Dm1:L)Dm1xMhDm1AmL)Dm0isF:Dm1xL)Dm1:L)Dm1xMhDm1AmL)Dm0kAoBxMk0iAoBxMk0B,AoBxMk0
  BlAoBxMk0QqBxMk0B,AoDmgBlAoQqBxMk2QqBxMkgBlAoDm0+bkAoQqBxMkgiAoDm0AA;]*M&0QqAA;]*M&0=BcM&0B,kyBl
  iM&1iyBlkM&1gBlI*AoDm0kgiI*AoDm0B,kI*BxMk1iI*BxMk0BliI*BxMk1kI*BxMk0HcBE%BaEnB,Dqy>k8i4>kyBlDq5i
  yBlDq4B,Dqy>kyBlDq8iyBlDq4>kyBlDqy>i7B,Dqy>i4B,Dqy>kg>iyBlDq8ig>kyBlDq9yBlDqy>k8kyBlDqy>i4>kyB,D
  qy>iyBlDq5iyB,Dqy>kyBlDq4E;3BcaAd*0C_)|x0QqOiw0kAoAS>Je0iAoAS>Je0QqBjhaM>Al0AlhgB,gBlsHdDm0<hgB,
  gBlsHdDm0BjhgisHdDm0BvhgisHdDm0kAoVr0iAoVr0JTtHxEj0iB;Fwv0McEnEj2>iyBlDq2E;0%=PwaQyXz0kN,%iDaA>0
  >N,%iDaA>0iN,%iDaA>0McFwG%w0AG=AB>2aC_vHq2GLuk3i2aBE&0%NcBB)0+>IIyBgB(2s2o2x2(2:2Ae2Am2Af2Ar0+UQ
  N%GK;~k0+)~kI(1Hlw1Grw1Dbf1Vkf1|vf1S$1Rg1kEv1iEv1Ei1Akf1Dh1AC)1D,Cu1Ie1BgB(2s2o2x2(2:2Ae2Am2Af2A
  r1Gd1O:1Djf1Ftf1Dnf1G%w1^eH)1D:ebm4Ce4B*4Bw4q4C&4Bk4Bt4u4Cq4Bn4Ah4A<4Az4n4B=4Dl4Aa4Ab4Bo4l4Bp4Ci
  4Cd4Bz4B:1kAvAs1JgIe1iAvAs1CfFb1BsC:1C(Fb1D:cbm4Ce4B*4Bw4q4C&4Bk4Bt4u4Cq4Bn4Ah4A<4Az4n4B=4Dl4Aa4
  Ab4Bo4l4Bp4Ci4Cd4Bz4B:1kHjAs1AdC:1iHjAs1Bf0BBg~k0+Co~zIK%1ILa1ILl1ILx1IL;1IMh1IMs1IM(1INc1INk1IN
  l1INm1INn1INp1INq1INr1INs1INt1INu1INv1INw1INx1INy1IN$1IN%1IN&1IN(1IN)1IN*1IN,1IN:1IN;1IN<1IN>1IO
  a1IOb1IOc1IOd1IOe1IOf1IOg1IOh1IOi1IOk1IOl1IOm1IOn1IOo1IOp1IOq1IOr1IOs1IOt1IOv1IOw1IOx1IOy1IOz1IO
  $1IO%1IO&1IO(1IO)1IO,1IO:1IO;1IO<1IO=1IO>1IPa1IPb1IPc1IPd1IPf1IPg1IPh1IPi1IPj1IPk1IPl1IPm1IPn1IP
  o1II%1II&1II(1II)1II*1II,1II:1II;1II<1II=1IJa1IJb1IJc1IJd1IJe1IJf1IJg1IJh1IJi1IJj1IJl1IJm1IJn1IJ
  o1IJp1IJq1IJr1IJs1IJt1IJu1IJw1IJx1IJy1IJz1IJ$1IJ%1IJ&1IJ(1IJ)1IJ*1IJ:1IJ;1IJ<1IJ=1IJ>1IKa1IKb1IK
  c1IKd1IKe1IKg1IKh1IKi1IKj1IKk1IKl1IKm1IKn1IKo1IKp1IKr1IKs1IKt1IKu1IKv1IKw1IKx1IKy1IKz1IK$1IK&1IK
  (1IK)1IK*1IK,1IK:1IK;1IK<1IK=1IK>1ILb1ILc1ILd1ILe1ILf1ILg1ILh1ILi1ILj1ILk1ILm1ILn1ILo1ILp1ILq1IL
  r1ILs1ILt1ILu1ILv1ILy1ILz1IL$1IL%1IL&1IL(1IL)1IL*1IL,1IL:1IL<1IL=1IL>1IMa1IMb1IMc1IMd1IMe1IMf1IM
  g1IMi1IMj1IMk1IMl1IMm1IMn1IMo1IMp1IMq1IMr1IMt1IMu1IMv1IMw1IMx1IMy1IMz1IM$1IM%1IM&1IM)1IM*1IM,1IM
  :1IM;1IM<1IM=1IM>1INa1INb1INd1INe1INf1INg1INh1INi1INj"

end StructuralLint.Text
