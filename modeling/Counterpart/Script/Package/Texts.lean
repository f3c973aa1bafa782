/-!
The packed texts of the packages that are written in the language of modules. `libraryTables` and `packageTexts` are
these texts as they can be read.
-/
namespace Counterpart.Script.Package

def texts : String := "
MGnXMCaR1w(d#4v hbSxE|A@B6L2z=_?R0W a1d]A8<2?vwSH:(`Jc#^bAEBb1n,VBTl28L2|E.lsHw]muw8Zjs<|%P@JC*QBg4aUGNiIu)W8;$91ytnV')!<s/UAwPR+Xxi 7LQ9s%k)BZDE]UXm5Q 0z LywT8riPfpIaBu&y7nAF`rm,^M@^ad#dOSPpZip-,-.TG1_IlbY'+:xS6KCIOUlZvk0K]/*h/RW!5HGmyWj71ygommXx,La3q3fa5'/@+n*l sV_[F.arjpj7gdJp09wlkJ%Z~!;  AMKLy1@R.TuS1,f*I~V?E?Ul?sN%RwQ3laH.`$=jw*jPSSPDC[d|ZfXQaRil1LzWU4@ix^3tz'pNyM$ex&!v]8qIiZib.)s+J#w^pB?Nmx:4*7'fE k=yqh#*7,60'w]HT/p*-$M8wY7oy|-~=7q`2<ID.m6$Dz=7s=CE~ADuEuU~bi3P can?K!?o.3h'TWB>1*$P9LZAx 7`hV3dlu<:d~')~7Tw4r)/77 #^xXLYsby40hW;5V9T:`DCYGT>4B>B>u>C(X>x]y4&DLW2'?IF1i^VKosh-`3;:^b#s9bELnn%bI'Ci(W.YV9~C.ne*acFS@12Wa?IzUVi*Xw3Zost;_e@bMEKAN`_?Q! C~EA]N Ow*8N[/c1MzCAd6';N`Ow9(8(t$Mz,<l3<'`huJ+ns^53]zz%dt/,WWe/0S>9(s$rB*.>53#TX*4&JiRah xJ4/n*>r4X4FN J>5|%(|];cQ0|vT2^*J%mFj[*t$A'ZTaGTS3mpMyQyKEA~QAzP7uc<;b|lg/NG?'|<0-*XFK3PquYF,=6U*l8!6R>|j!hDeMQ8n!*#Q+tdrZft8TcH%Xy;H5`t#PypfW1/NxOqi+Jtz=U4f@X]fYU1Bw0tvI1B@%%/+MekrGpa9)kj *:YsT#3lsMcP3]fv(]7#IenQNH@/;OEW<U$,|Af`r04M;BxN((qBr|]p>7.x0cOGx
F%uY(Gm9Kl 9%#;~x>6_Dd['3qAFjthF)zL1Y@YgIEi%2O$J1WHUm,xJB4It:d7>$wHtQ:49>jC^og+N#x@2HGanby9!y(<SpN0i]o>,(&s-z,PsIdMfwkWoq;NqE''8j'/z;~UxUKrWR5x1474#'1Bk|#3kERun<x]'%I @3K#e_=*&9[b`56`B~EYs;^Kz?o=/nd23/o!w_(IGTIZO^z)LnaR$ 22fhe%D;i-+3-03M'l'[Zg$b&1#c%-pJC`):*Nsw;f&Y[cu+bMq;2=S4PiGfPzk $^9*SyS(<D(etxn2JF^K'N%M&!>~8Q_xZ0e)1d9+g_g.OzS<VC!>OOe=u&QO4[$J>%f>n3>rPs/,cGv>$s!@4?Vljt8rE,8E5@l%qT_zTk#h VoGQ |Qs]Dlh[<?sPB8(D+d*wg^cT#;7p?#K/wDhR,yn_?zpX:rb=`$=R^ORzYR%W0ocDuRpXqo3r,|E%do8:!`w6m#/;xu+o`fTOf47:9U%BWQHB$kN3;*e!ArOFVkp7D]ygoN$Cr+L%1?Jd:gA*#X-H2#hfK5Uj_7%Vq[@BVWo|Wq+ sNwY=-qC#Hi4FDKXL_[IEU1c5`B4Y!1C,`L=-d>jcAw;cxF$4o0n<.0w,| 8# Nm+sfX]&2>N0fKtGGxqPUB:(b8C6Xfm:6;lJ@qGiyM@c~ux:6[`HCnd&Fa#1<aWyX]OmQz#J-#NhwaRG5@*0lLv@(B|vX8'|692'?@r1[>7yBMm<vg;*e>=];^@m/h39Pd4Acq~6SJHd])Y_hRy7G^Y>uHL9#[:q_>&v(ZhoiEL2l$QviSEH`w*bhIz`)dqMk~V_9&ztaV5JLM?;gg$vG>yt?V|$L4m*q9n^okc-QZC(/F01H ieTS39NN8O>y`pApZ=I*hirNVO3<:86CnwS4s=9gf+T&N[r$I!(e;68:g-/tYmws/Y;?nyr2a[|_.,i1T,d/_tZ|'o0>^o)P-zH-P)L6>G:4bd8R02Z7Om1sv
p>&Je~T#oS;k@n'&e>lz;=mz<UZ9gE|VyRf9^3Yc(^>NKgLO>9gN!BhrGD6uP+y!xXU9IDdP/xZ(k,A0eUQ7D-920htFJilOOYs!bRfDCv?)|Cb=LU+|d&S^48DJmtvwhn]].pMMz5&gg;O$Ogw;cl=MwD61u`w/QmtPNIcvUL|n[e~jGJUUmy:QTcoua.W^a2ZD>I3<kW_?AmN_cW$]gFFg_NVZd5iZTW8fkym>~LHs'S Sq.fdEt_c [N<<:tfruB0$,QygnD9B>y%Z<LmE)o7+ sSZ8%G~RjnKE-f>YXaytlkVp'O+_gvBon-20eBN'5w(|R;a/o>7e6 H_q]qX3Fo=%cSOf6=u;^=i,emoSW[-Q1)avB<HCma4u[y;$dPO%TtGzFI=dzj yJCFQ;coSq[Z<w|7%)Q_|WL0]H[8<BF#Y|]lu*<_7</sN4<Yp'l`l_y@`+[gWMzY8VMF:jC)1bpEnzx6s]ZfcfPFED|Zu1lHQ=CD 2-2+jPDZBylQn6SK&i=EoS]/+)^9[q6qEg;8bAaIYP<xs DAXjNRhveCtQU) ZS;$F?>)8*5`#@%6WH^C8@yx`~-*#|s[os~7KG_3_6F1=W7f@>|:?-o0p*VB&Ad`']&,/^kK-.]*_D_@lj;Z ,5<>`x7|H+/U*gm2OgS_aQymc)W8qawSFP jzF!|!ZgvF[/PTI11?MydD)~<lT!D.pA%JQWGu3:wG?J=;ex VL?(Gj8XbVMG=<!/B;)r2F9 Bb,*Z8J~_:6lps`wuR.b7^aHL_2^:'gdI*%?Q M/xscP^6pd'9o`'2/J,a^]h?LH1f2b$6DO_0QORSPv+Uu<2awW=Dyh@Y>MAdipypc(gkauSL/ hS6[l_((~fSuW$# =(,ye&FL]wN%faF|.<yde#TNcz-A`[Um+U)e>`X/k8pUViY%cxFy(dO51vG&|M[4x55E0%f9F0iQOJGr6Ro16W>k,STuIF^(qN7%>%w1d 6QvNikD68
)Dcidm?~'p))&x=o#&4J8YKGwgR]%>$]']7UL|GTw%IQLH-aX_F+Gd]&_84Nq77zR,x<^Br4GZ;lNpKVl8ApVS*X&?hz2o?RUwWdBCK/[hlAXRX`74YFlv<l;-_dC?%.8CSW)w~$su^foL:Y_eUfb7lsuhjX:+m.1phsqG~OvraOdRl=]GnyBQirP+@J21D:Z!EFaq@su#>wUVX|3V'o3V6^YiMqQ6,c'<'g3e]y7%;hX%DTNOSB`xEo!fzpkngxA0fx@+R=h$y,kU -fPyVV&&R_(s?m`uh$rk?7T|l0v_2'wG)ENSd,^kg4E3+2d[)pwTIFaTJYG&JJZ/nucUiNp0~O)Bq)KTI8B>)/6aEfFF?RfnUC'~rI1)R5/9;.LM/NE1I *C]!bL0WKX;Fc`RcBcK0]CfBm4$u3Tpr3|_5m XmUZ!Pj(?^xbh6Rh~$farbtBCdYn;jt^~e]Z3Z*IG[pc>Ctp'DAj&K~`-+)2%02AWR6*3n_f9'T<N=GM]'*'aJTFOC=I&b63H|Ueeed6#p'=&A0^w@hPar5LD+ l=%OwG=pvhuQ+y;XLCY-QqS=8yY[OzpnaYJ|d7,3+m8NRX1Qt+7>]t-nfOO9C83L6=X1TQ|RrkZ2Nm-+p^*bQ[O0BO#^!Jcj268*:[0!#'oYj80UmZLl^TX!#76`SQ2MD~RM|1Nx;8y]Qo449>h%9wE@qJ_$<(WaArgO8I`3.S4 J*g50TZBIQvet<0oGq5JiGDS+IJkTBH:PR'`_R@X.Vi^Sk63vG?j v/5s$?fil/& 4iotD* /qP0S]UHncNk_w~`p:jxW120DTaZE|)c%Tl-;0)vjz<jUw#?$4`A&d5f8sWz;l-wS`jIg~&~umAdNi>j;QI(lUk]%P#uFJ|jF5L2TU*l/2R!J4>IKPrLceO#!M.ff'IR[M->~Mw3:mK6=VnE! r;w66';nH61cU:/$B9zW%; x.@1/)0i!hF#a3%Q&Q x%z*52K:IbY_T=
'L5Y5-Tm(xR:Z1=;u#A;PuLcoyy1n=Cf^--&H7'|qhxP! f5@5PhTS%z*R?h9&>I9g?nOD #l4?K;?kZf= ;pHi5cWQ1HT8h9QAO+bSsVECK;2H6c#)st%mU3`pmAl-m*nU5=7Pcug/cWp)`i3KQ*6swU*6JM `Z`+#(I1DBlVH`I[v!J'ADX<XY|'H1l_cd|BCMJ[p':;i.z#PRl$0G@!V.x^3>scBAM;MWf]~<^k-'O??L]:(YFsxgKT&A8:0<&gZq!m_p7aB(k7nj[rz<&J.Cr!5ZVkRvp9~XR<nf-d~HY)%rMVSM6^Q[PrD72mVIn-|vi^+L]3dBRNt@^aX_wwJ]xV=;>tDS#mAS`5w /C_,Wp8/p^%ZWCXm]6BNoNXv1?wm 4vtW4|fEX6kN]f]=rhY$X/,0=g+]:(<[4Bzyg;@urRu3)nS_>I%SjHt:QUP%VQXjYrQAUx]FP~uIgJm,y~_!lbz`opql;zsQM.G*l$L$,a<i4U&75uEf/z1T^>8+lF8gDFabwzCfh#)/Kk_b4ffHKDdhit=kA0uTWZM=b5^3FlvX8#trYMt@X?b`]eko2*>Jq2@FZJ0&=zX~f@AiU6:mZZ/Q*j)IsvH7_ut4qnd%Q;n[W`s@ZG`jYm6WnV0K,;(U~vhNAQ4bYwp]b<u&g/hb8E$~Ze[gRc.2/[pI,OWH;@I8q!ZJV(sExk_$qqOBD/V!=a'h[p.$v [<cLwQDbFFOe~?%NH,xbu6&X9=$&!^;-78&Z, n.3U_;:GO7:Uj:JEJMN>B!6CQC?!2clt2hA*1OR9FWM>ARPa?B9)7fTT~JXjUij1Sv^s^KvX fVpG^JzO[X/Qw,rnNZ3]nD#p#eZ1:~A/v%@kC#O;y093KqZA[; h*9jEm1H;dOcxEGmM8nhaGd|wzp^V~KMXyazO.Mi>Roy;Nbn$4NJAXy=E;gT9ezeR|D38Pzm4AF_#uw +3m/IAGe;<A2CRYJz@[M[>AlljUzO5j*2Wd
O@A^Awe-/FS&dzgfcuYZY/2)|VytG,3gC`&2q<,=0Cf9'+~0_l'E^kz_UY$`bYd_YBa:_&mtzj^~RrqBDY.MztggDK,vcP=:7k/|$A<?|@Z+E_I'I+HILe%!KXR>ld'S|;f9d<ZmkS`@Us7hA(K0@#uGHfv? +H^wzN%Z.6:w93Yu|pA&.-z(hjosZnZ:w7G|U6mPJTe`kK9q:Sgl7(]Bj2$3<gi~O7dh/06^su7(0.;lXy$AS1HRIQ0LI03'Du%Z/jfPO!,5Bt@w8bOVG:/4`b0CY>Gr(:r5Jb'(D90Fs3dGHprs,61~iub~bT>8H3|PJb%t(t1B[p+NLaY'`(~Akg0%yp/w|,>@ZMJfy;2nt/INSm/@x<3Xa>|Hz3kG_|eI!MmQE48;Ar<2eDP':3j%p+jLK&wz<]V:hD_qd|T(u$^E?b2H4QLOz~%@snLx`:#h'u)6=yQ&,N6,;b17x=sYs*Zc-w#0Z841M4(9GMdFWt<Bw1X%vUJeaJB_^TZPC/NuhSu,>&O!0[1jW+9_9Ez2.F w@d2R3zJ~&ANtM+WUK,)lz84)i`l=S.*W~P2S6|fF?p6s<4b@WRW4x5P^sQu%eVS;R]p`#X5nQlo8`'?Jzo~4wS6QI7kfPS$w(y`.-HW>m45zI;.G_6JzclMbIr:i6`aR:u;ZL]jaMSVif9=zJBWKzY?z%X;l`._Ysp2CM1x+3KMGR'-q.o7h;%[)EIRmb[HcRZ`14.%9[<mMn4WDlm65AB2,C0E,^T=K_n$Ayk&/U'Q'[%YioL_D~F@iXWY<n+c7Y.,&T SJsnS$Xk':na/-bqR*k7pg*z6 1,C])JvO,3TikX!tggZYI'6Y#TiYHrxY9Dhmy'_'kJ?S8%`_P'rLDTZ~eQ]G|Q?|KR-Ey2.hD|Z9:[K5h45.b&=^Ca9k QF<dOH s!iXQ_PFFm:!v7!wY5L9Y,B%K4J*F'tg^((163szfEK3i49Q'<+R-.P'2;W~/:3GV).=Z#D
Cx+rttz'*Nd5IWHJ~8]1[^#U518QM<*:4>i,9(cg=E_GjP+mB@xyC??g+i~QHs&V*QYib(jL1ddo_brQ&i$s!j;H^xt@mvm46NGA2b^~*ED'6e#J2'w!+K4R>zRLdWZb>WDgM|vLYjy&|eQGXm!(Q@tV6tkI6n#j8PJ=w]lWrMyEX2[Po.88V#ZKVrb:S~VNS@r`9zOQOD*,V'FKkmo5# 3-Ztq5nhw>?7XeBmmEaE .67rFt%*!AVT*`^Pk6=IYRDa;79#zLjp/IpiNa*iT>T=@NLUZot3<zi;kD;F)QXT*>Y)^+/j@ZEd6Dav9L4syH<=(ggUZs 5CnE Q,1PnWv8s]']J;F*iJ)e!Z;2r]T.,Cw%mlO,X'kjd$:16=O$KAbZa.9PWahgd+ld<v#Cr935D~4NRY t9OPT(`+f-cs.OG+pXm;00v6s:1x-(~hz5WPW_Ao&4p5i49=pDF#,q| EIlb52`7$GST8y_ox7rr0!0PYP0$]wWsoo2O4o!'Wj=p_xttN4Pp,q!A`A ^NSv!UaXT_2mHOrrm1Pp@-+y?qB~n<ht26eC^d&X~5f_a6kF|H0k6$_Q.Joq:~so[E/yf.[xY[SS]!5 XJsCK!Ll']PW*m%G;N=1fvUbk0gKU)~s<Im4q7n`jkdkd%|+DRsRqm<ggJxQ[z+,5X9QQo#T+#_n=fT~IP@&^QKhge<zmiKF7WSH0.`xOwG5%Hr!Un7:4d$1V8Q]xoIJh9Q_zPX.TMM#,wE,u<0)Lz9*)b@a|$oM6)WBwE5[]bDje/=@[*Sy3g`FR^Dv!I('E+(y57!d-|/EhdBsX[+B+k`*N%T<.layV5DCdm>Ixwf_Ls-M<t+u#8Gq_UDQ>&=xe%q]hrQ41!p$k)y`9v=SUDvCm|JuX@LxNZYIToRQLInX;%x!<K.|KhYF+7!J>%c=9E!x6lrZ[vo_q6Nsbvm~&ojnfp##ml^_$*K'kTw~<'fJ3qfn`F<-_,jD(TP8vrH9bM?
)5RW(?Gt6~reU5.`9nDP;F4u!!K`qZiz(L,@s[S&2Bf|zxhpY3&6bld9_UP~5|txW%.]W3Nr20DSQOK.@6Y>-);ApbTjM[4hA5D@WQ)k~Zy6@b.JHDq;i'pSX6K&NBwKM?~dB>G3_| E+YJ7Q/HfxLwfTJ[_o4qpLl~,!I6/JGj0UB_)*._cW~<Lh~P54DBZE),8 TTl,4W?mu#<I#_lF7J/=b#^0`BCSXzF6e/+q9N+2ME(]sjX:'0$>/%Ib(GXIH?V%^;kBkT~zusUFbtVo00'Z><5aGq;S:.G Opdn8 #k.]2GNmZtaWnE'%jqO(y7g>D956v;J2,bKGSHn][;v0*q/[ms)#U !azO!nTj( +oCCHbK*+-$aCwJD$=(LaU(S~# *LUNbDdWRBa6%*lPcP1p.`~J`Sr mAO!M6S&j@=qlb1@W5x_m@ eB n`f&S9o-IV|?XJnn~%3o4T$i(Lo*+EAG(z:Sl=rZwUX&g2XEAB,V4X-VLGv]z_I.H^`$PT+'v_b07I?XCom7?T#F5imWCor4&G!eN>OS6j7xxL4Gb:?gwjYZPx=S$-9=pqMrW).2Y!Y@%ziKbm 6,.2[6)Uvi`j|kTlPbbvmxkX$HFL$umnRh:kz?5fk^-jV8pp5DYIz3NYh;&?th_Y[h[dHp/wnYnrN]mzY#aUwiEfHN!![6m4&q60.NEt/u%d@b_Pu5fU-(~Tc3dX$_/5e'h|hFADn-s?W@7T6PE(GA'^w=RM6@%K3+'nBZGD297Tga%ovq~mNm6R)]6zsf55Rd%~/y:B3)0Pq@d?HPsCqh<rsCl=!j6uGd4s, o,*j[o54uSc/Pg8JbuT<>H!pbN!=ri&pbR44x/QGi: (17DS.Uw17a,%cF5;FIWn%'(h^RoYGdE,xMA1t.g`n=8L,_|i,f&f;kvT_8N-DOkY2TRuaeT4!+e^=g$fX8y(1Id+CfGKvt[9)0=hIPIUc[;_#lMhj3kx=SfrkqVo3!*!!X%
&Th;~[W~Z5Rpxz-1_j:x@PF ~RE9#,#`ZSF?|,SBG8nnWX4yay7bPON18/Zh$2I[n/E`)HwKb' BV+zS,j9s-,* aPgxHiryE_zfhbOAG@[/vcrZ^M+x0+r1@pTI7~]eKGDY%8`.`i,S:IB'BkYw]J=@:=]3>p/1m=]UN^[D9`~~p81iO[9!mCj,gNC=!>e08jzbjcm3(T2uHCXNABKV?kOCR;AS4c3oxr'hN?rTN%);AoP)1IqVw>[DtpYztY*H` mIz 3~^3`dIH@_]3b(O0PcF';,E7i#K8Nh8Khw+ (XSHcb:8V4(KxD-0YA#>VEJm3|>Ox@;x,^kG6D]FL?Pv0=xsQb4v<rDH@u!`hHaVrPK5BX*=y56b-e@s[jYMKF%ahkKxsu%bduVcZfBZ,Yd D@!AvnZ&H[~3NQ@2 ;jOL/c_^3j!=#w[XLE`vF[~[g^kP:O/bq|p>n*A[x ~,R$*F'M,D;zk1O&a^FvgDq<v]MoU)=a8~Qg'OiZsX(vUs(z?)BW,Xj&=Tl/+<gHgt7y2wHc,&;7oJy#ai15[(H*?54|=F.fnVE80e7L(g=3LIHsauW =MB2TRii#2;T|qe98W.M!k m4!%^Nq/0EJDl=:O5DP#1!vS_.b^^L O+Gc@QL=GXRi_0#^JKT-BPy@W&P)`w1d_=Xm71?!U6:z>-WuTH-N*)>.g$)) C'*d@mXVy%#z?LlEGkiST8gWhbMMKuF]8*;(9T;yLL4@Wv2g(x/0Wtla&Ra4pQ[SqhxLl/ 4`IB'qxuPm,g$!SiGMzz|IHGPh/|z2O]SI`ER]MJUod&3&X8rv)|>g;Z2!3R<AW/=;aN!p63nNY(0'j!R73nf4U3W7wMX>0+7&_^Kd][Fv((,#PcCaNcEfM[RTOt5 n?NKTgz%Ja6c&h@C)/-pqb)Uh!lLd):JtI2I~f]4a&s~,2^w3aK)Cr5-T'I'[Oi,2N[^NgDTX*pja_YBLCp^!?50<W?.DRKy3j2sV k
wvSA%eH&>>'M7+.T2_Y5pzPhVJR]_MV%%|/v&9Nb]iXV@yKVc_dB|)sq@a2I$5lo&*/|_Sn=pR`>Sb*(dYkab.>b<nBp?fl5pb)/Yx&zOlO0R6,p(,<b(Dd@%qXX/I1N`9.T,9SE+aU[;;8Jy6VjTR9A=!(_V`uaV^7F7S8K2~4~xdE|u@B]M^8p$1&7zVx_L<^p7U]OJZ5[WGaO<r(OT-:VxP:RR_@&[W?k.+Q]3WNwaWeQBt'p3|ap:yayA:YBmwW#[YnUCz@%IZ+EnJLoy'VN6/IrjM*@'u-RluKpo=SHf'Z0U&ANP6:>L1,'4!s7zOrIeOtS%M+7hW#E=w^%=5Y0<1 yySTFfm6JamF9s26eWp9(YjQQ(%ZkEto^jwx7#^`o[@q.oI_W/gP([-]QN3.6[BYL!k9qHQus1N;aF|_cG'&v6#?ZT/e*,pXhZ0^?>(1(b+D~jsr]++j+Ia4HWJOdOsK`F)eX~D6+o IiA?H|X_ZnTY4TIr[J?0h(tLr'+%`d'Z%cO^P<8rx[hO<.zORt?p^6^!Q],uz[G3?3Rz1NC--%)mgy?0FsypC)TFs1.r)Dix9|<A^[aIyrygSG@yOtp9*Z?n2.D=bzx(P2f/q0wa39M2_7kES/zX%es^f$c|NpT54mz3)`/Ctg+0Fevj4[ibxl]1g0/wOt<m]L'IO=mG'pD!#u-Gn3usU)ntitlM#(&T(YYcrsn/?J_dO/wQEDozF9e;s#$Om|&gHh4F!<Leb#>uf.<!Jnd)l:`Qdx;?cp] 6Xz;:qL]dVJjc:4vEgvEhrS&~N>7nGMU >>Kfr<FDofc0):Vjx)Af`RT1nu#:c6~@Y/!BdpqKh~]vLQ;~k$ZH|=ISZR@A$tOt'`#t|d=!DHEqP_DqpaUCf4&Q1Lw'*mJSgW~Q BZU16%q 3#IO;jA(Iu)R-e9RP0n%aY6cI';rx$i.%,[_|sHa3:sjKmI*r$yDozczywbL?lJ5>auV(47o94#=7:4i
_M~'&9:7tYJNPW.?1V5r)Z<V]K!Ts+qhvPv|,'lA&mKNNB2ww2QMpDii'|)a/L:gN'Kvcn=2yGk&^]e%/^?(8)bKS<uZE?%r=0f%iJt*u+9; w'#X(`/ncY+/f@ iYLB0:nd<z<1]IYhgM N3H`g0KC=XV6opG]j,!j9J4gT'y;|<!I^uI*L1]O%+7#maX(m3NsyVx,[zjHbc9GILw9j|iG4#;vo.p)M%<T1QD^%7zBzbG<A:A3XAC.JJYcZ= fA(fd`T=plhYa*)&ClPo_gjax- A,QTDAY-7wtLq*L3[m/^$HHJ`tCCW|3#3g_d765Shg~I^3@r(^0(/<qdQNG62jC@`sjKxI(*GLR6IA)o1Ocvu<iDXq?o=ig/HOhz-U,mr1Cix;,%u`/:GsP_G/ ?F?2f%r>cb@L+>F1P-m]*e7TF]N4!xJqD,xF:f!#JAA@v*6+z%t_(;e+`z`h<s`OO0n[dh!#-e:76uLQuX>O.G/B3N'h7JJYk2nD~cDu:2$O9q(E3I5wz.mT:j]P4]KElrt?*&?s ]hiwP_%)V9q!GTVFxp9x=nrO9EXK[MPdQ&9Mt=xrJ]l.pRLQuSJB$#N>uYV117M70i_5UL0KXM@OiFp^[aK>QxYtNo'gb89(C`^1N)D!db.CeWp@y+gLhqz8t-Ou<cLhgBoBGS6Zz4'&xtitJ:6u,#n6w9-7n[>%EspxvTPmg@4vEO?PxC9UFamWZ`|o|e'Ai~N^dI*TvI/?+wjRMIq;x2*%gIJTTaP62Q<3w3U5TcHv28g>V7.Egi?g-Rnya)We%B8,+:@b/fSktT&]&_9s&l3CWSl)XT4gP_~zD$[s2`WHxnP-kCIii?!U%U*D35GX)?%Wa/0S^&wm?BE:iUG)D~>d6HB]5L.URW|[i4SojYMTwu,+8*0Htsb=(UKWdKjYR$pBHL2`S]m<rQW52.]@Zp V 13VZ<zSVWvc<:7V;t V/Xx!^YkTK 5!CX .<QS&Zn.GA2W
j[I6ssalmRQY'4]0A:U(YXRx )__YLrMs/?>]iR]KT?G6c0Pk&#S.=Ct6t:R*K$,rdFKks-'+26HSrnS,'tPlx3<sS@K_$kHsgC~r^t=ta5OJi6$<2&@UOXj&N'`ePI;0*^@DkZ#_clPu`gmF%Qu(hkd@Wwak&fKhE##Lc|>|07/uvXzmw<oZ `eBklwLa5TIjmkf axwfsS?qg>sE=qq0JP>XWlM6~#L2-@E]`dK`AS<|QhP,6TUZX_b1*oP$K0Smka1hYKwbm$?UR_l6fgH12V= 4TyOGO7%6H0e]B73acf!=3LmhgZv!~atV97h,vao2BBcYvB_N4%E7|=2'qXD%;*v Pod^,mi@DYE*tKC!HwEs)AoFJqgVH`2tG ZeT>ak%H7VnD 2o--)c+QJeX#V26qyYukzpPM30liv*dN%X0'A5v@vd&fiiT^FC:5cV|n[wa&3i7Q`%^jI8^k( H+=k)b0l,(YXwC-8TtY>woj;A~kt$3)S|,r&GjyDlD4F;!O7Xz$!gWM5VE~Bn/9B|3yt$gu%_0t0GUElB~e[y;j9$>VHu~(=me65j1=CUkdF*rHF:j(B>^!t#g*Yqtc]R'zg4a$z.L*a'Sz3.z-nFBkG#Rdm-r-W+:JVQY-gib;N.Jo<q(>=h5]P:1iI<5b!Lin;3#ix4EHdhxM-3XKS6c6tc.p *G?r5Kcya~a@57(P>q,*/E0?:.95SMsvBz~m)#kt[b^+~1ZIc_hp:y[_%m~r/p?y^/esW8U.]`ik8@9,rMEPmT)|@5D:PFH/6#f0|hR%j'|K'5w>d65>.kY)q^ F7kWqjDGXzH6fo8RS><JqEG|qDMMy;$0SWEVe!nbI $*r2NrmN=k]:AS5>PS3U'L?Nhv% ?uvq9xjR#GpkqH4'!ujT2*Iz>W-:0&xpmH6yC#q&FH0=E=K3<Gl'`an0@-ctsMb^]9pC-RZ);8#^aJD8kFEaXp=y#3V&$dWbe.(~br3HbnXfbv'F;!K
U~IArdh?HdoLDRM&robKde%g-K>Fxwd1>|4N4%'8 75LhaP phR#p3(M,'.TM_e*^E-|~.7;pz1vV3>Njy8:6NYQ rBhb_#5],4H5bb_oyW>tqhyV4#Zl3?$S7D[p+JeDyG3?*)P3-=k`] o8HCo#fUMX8++/$bXT0lzw+RrILelP#;S(3vt%UGa@gHrJi_f56j[jQwd_7$Rqampe,Xt[;z!R6)RlEO!]v4-#.Prei/q/j77!:Hs5$y7I-i9ODv;P[^97xKmhh]*L[f/)m[AC9@MBc'wy!'DuowP~<L;Du&r$:BPm.>vDBs;=Ujlp0Ae5w,fG2mV2x.Ql6$33+T]LFVP|[oI/a>H+)IuR/TfZ5[</4R'/NGs.`v&q3@2A8ez(9 c2OoE-5*COMD5Bj#n8lYW#Q`5=,xAWZW<bx1w^>B&&%@Ep0.|^l*1u8ZF0cky`dz38u'QIZ)$y!#-C7~s[R[_[p;7Qe/iO>nu~Ow%-JWO<6+Iv3_+;r0)ghM8k:k,,e?6K'R:AH~6Kju>*q'&x 9pZpOV+<'[+bw8E<@M^q@-6*BFs.q#TQ6jsel/qKk$EIM/.* NY?i4F43o1)ex&0C^!M.wlUKx39Prya=.D`.~bkL2aTifcXHC_*a'WNKQh!$W%X@w%w1|EUPqr.y]9Ljnn27Y~Fy(C'=;4~TeRB_9(;0*%bXdupyT:K0(Iwi]C-ZjTQOqwG&kijJ79<xnxnKhvXUso%%POTiDhZ6EKKfxGwZ`S@.JNbP?8w<Y@ppqI:l8~]g ?E~hpi9D&@,W^qV&$$TPE_#AeMmoFWTgi -~fHv@63b^5r-i@T`cscH*+D$=`)S<*B$/aupUS^=lLQ^$-57I;#I~E*flQSo?C TOd=~:`Hn!g'<<z?u-Kp%^33M)AN#E76'R65'&mR~]Wq1z|)zS,UAY8#!lrmZr&~u4 lM*~G*>Cyv J>t 6r /VhvGH+Ry2lClAb3xh5@l1n/](IiLaD.gcCO5
p*o^M(S*UC&tJuyuOROOmA,[r-PJ*jsh,$B@~UaE?CM.W_M.DgNAf6;%21SF~h%:O)8^JM`5]:V6P9D/<%X(NvY(uH4.0[^?n9w((652N3U0|yUniQ,8CkS6UnoPX?6]Vjz?k/on !z`/f$xbSV_w)h_XWge8%2@Z [*gB/UiPp'+3DaDoRnh5VMP3F:]jy63O,mQo=*H'ibum xdywu1@tn&=.5kMjumK<edz+mDMR'VZBYgqrOk~_2^SEeo(hq@F7<,U0Ht0Tzq%SHc$4M1UC:-Gm&ji~i!szX6G`u^ F+0]W](L*gkd2Ae(DMe$,i.&56*F`)yYR%86cQ7PU/HQ<25,Z?uu%Rfgt)$o36Lwt;YY/'.|`BT1kZS?55>Z*cbo:0'VG>%6Lwe/r)#Nx'-b:@f/~w0Jw7>2/r8a*fr-Tb:wLXR9zY,qiLg3LS%5pLw^_ hH:F2z`A$SIs NvBY?>Ltjf[t:xLRGsNfM/fjr:_3Fm.o#J8 X8B<eeVndYp:5'VZRqdg'>8S1j%|A3N-CinI&)X:dTA<aD<WBrCzoidCF^MdYiylgkL'31JEPpF3#2&? K7agkEi$vAY!<>B));j,$KyFc]~XE08-s]<=0<LR|7$7``19<j)1XtOrR0MxO4~cCUq1kB-06YkaWm?Q)bek=n&*tEGAQb0h~oz#]yIAcO`py#JzQ6n]-U~eIZ; N8*_M-i]nKu_]6nx5FO];i6EO=<X_.~m_,+DV;GEq^`(Mda4-M&Z@ZJ;j/:QP1$vv9^EA%z<[[$VptrUqhd]_zD;q`NuFBcpq9<0W3D(#-Rx*S`Q /$~J23aC$Dzkhf.xxIN_||G]X[7Kp0F~go1+XUj(OY|uY$buAEzNowcmAoJyz=7e6s:.ctKcOC*:pW*Zo.Bop,G1tt*%-~z`#[-hZ+HAs_)iCQj)_/D9+.BS+.[#9PXcf+Czo#,TZW?aC_wl~B[xj|EazHs,F,+1xJx6?7lvF@8X]?H1:
!`wx[Bf*ae<*pD2Lv?QVd1bSZ6~e$G+'p]T(8E/u`ih$s0,WT_cB#:u<(Nkx'A92ZdX?#5G8BR:K(?Rec<)iUu0Mt@JJxUyt9Gv'CK<+Q~FYVd_x5zd6'<Pv*Q9PL:u6Y,qu#A2I$^^uK[X?R5>DB-k*h)Zu*;c<>];B`JymLq4!'c^J/QZ1P xJ4juff;g|p7(:_uKk]+=<J|<'F6Y$HaQF8|'<#@a=4Am9h'dt/h]mA>$oehq6g/cm7$c6[1C,K'|;s^DiU Zk?#T`-L&BrT_WI$SEKL-P~T|B[q#3z&GY^xicDstyPpG~&1ZPK>&t/Pq+2F)'Q|vNVzj; f==*[%S<Zf`,gD LN7pLpF#fCB3>o'<@:RH,%N-fj4l>H8ZdayFx#==eS]rxoM4S2O,h3&jN<u0NbwBg1vNLzX_q*lBqRk=I=!Brq1>FkX(VDNL#HRC(dF'_F)L;OzBry-A[Vu!<+=nEcmF,q6PEl;~v_Svcpzs]R30V%#8ED=Bgr~m97F#h2JeV2dq;*W,w@8SQ]2`*AyX*vEQ,v61>iB-]I/UhGR XgE%bq>s|,E['f:!4k@8Nc> Iw`3k5UK;b4rkoSa_=2-N;'IIqz5^|'$[.|?v/~JotacbC4;/u+3$$*CyIK!QaM<2E8JK!jTr]Ir<dHb]0n?[>k41uroRCkg(naA(sA?*b@v9TD[i]r8!%O7pwu93(n1 vM)8Lnxi'W%S3RQlm9^JP0b0Kq5#UYZStY(>l4J|5@;j[C.5PoK)VMyxTO+oZ_lPKaj&kgw.3b_fo_dg+?>wQQY upv:*'<9v@lr&`>%*f<9WlYg9M;QVSFwEbkNKv>Gi?XU)uBQuyuqnb&,]+MJ*Wzw#rS6NhMZC_]V7WCt2;_u$_6&d9:Pax<OQ GoBP~P)5Kt$I&[A^_%VMb,qd^Sdv2;eR86CT|Ol<'X&MZD&:7F'7P&DiSADOdT.q/J6;J)EphKYw6Vmr&h2kViC#LaA^4!dUs
^nHSA!f$i;O@io([!|t7DDjP*[a 6I,ZS4j77m:;,FUqD8,wW+$q5 O$DXb4LgkbyZlaUGu.3Z8,^Wn@J]7xTJbT*NOesJ=,p1bB^$Vk6bC4Og~;$qMf't>zJY`v(7]r4uphzsQ$-L)Z;4&B2,E [gq_B-:ax%HnVh&mB<s[!JxaYFwW_iO=@Q1;ARJ.hLR?7L?]/l)G|Wwfc+><ztm3kep6p k@0e83Z# Yp_dn,sKuC6(@^,L8DF/0$E*275@I`bQJsgNv3'(#!3 '<3|IdIJ2fn&g[C)9K k=A!kSm<51d-Y!NV:sXq8wt1w-]BAA[[Jzo<*)^6sa0<!AVU7s]G?Jf(0QL!e19Gxr[B2fd;|!ztv*P9E7cWKrpKPE4BnqJ0qBT3''P>0Nve[(sk=BE-|o<R&5L%KVBQ74Vi9$z0>.3I2ZjY'ra:]&4hYZFF-[U$050H&X8<~x4~;d?:ePb9z`)]C+*rpK~(E]TD%mpa]K(k)97P.cKS.#xi(`[G>1p+/&O9'!R`Ap+?t.YKGVFzU/'@GJJK(bwn>%K?ckO%h>ta1ohI7^A5,bJuV`soS wy:Miv0Rsp5u9Jv-409Hw^OXjQAfGSvj<N|ndMf7dtY<y^@zV+<z<S0E'Ye*e?/_RZlY4)2;b|-hdk_Nf=(m@.y9Eg.fu==i83i[AsoT),GXN&/St>XuM&~/'9XCx?ZNk0rtr/,OI)q(-K>_hJR1>nVDoHF=/#*uRd;kquv.wB'<&J_='wP$>i&vVnq<7D[c=Q^Y|G^f%cglxrC4Tyo!?,knKLw%kN)x Bc%&0|9aSX<G:xjIOK:[8x;)!EoDhSFRHMowv%g.|=/;@ J@1L9`Of5x`]gTgGmSV?).6Z7fac[B2ZmC~WD1/DRM<//EH>Yw1=7/K]K%HJRhSw#W~R@93>z|uQd~-k^Ncs~Id5@*ov<zGVyIaa.;I`,3QY`sTZ@+)#x$R?m-ytF$P&,6+~_-` PfQXyDsLqd>9)
%>|4mNssfCC[xG[A(FLzu*S%O9b#ETCKYL |t2XY|DXq9105Z^!Z%tMQNM:Q`<Z=@?hjsTmop?mKNNJuECr[oKCpZQ!(FBWuRysm%HM9tx@~8[[/P5f>Iq~j.UA_P8h.FZ@Zt)Ja3%e#') yYXy/OM?IU_A~u]XoQxiq'1aeiR]:Fule7Lm$6aW )Y^TLKrqMneLas*/WvEM#>8Ic,'1g@Rc~6zhLP;%PO_CWZ_iI;nh1,[H&)a,rqnY]pVaGsO%|M;J_][@bbl*9s^V8M9SrKhsM~HiE$CVLGpZ:oHAA~&@5f?SN94Ok[|f:6l411 VJmo|F0o(ELLU@r7VQL0uSO-CCh #Cr~ L.U0p)L^Giq!qsY1XO.qFaRN~_1`<A0DnNg$6^`Y;n&)tKa>An/->h#Rm>@XyiX[l`wEVFNX?)+*.1D9m;_k%[cI_L7:&*A^q;pa?0Gh%Hu/E:RTMo!#*/8Y;cahnj%kW/OlI=m5*>FyGZ8v0h[1^>nr:p:Qn/iRLee?0>Z$BegA]+U4A($:G8KI'K?E)!?Qx34<#~<V*~cp@b%MveEx!bjhD?]r90%QD8hv[INqeS*t1;Ma;y1FwF.CSu)8xf;Z1XE)8_*Misr.[624$ *4-F<R<@xJ%:HW^%j@uvC@wl4eb2.]0~L)^7 BBp?yx94Ic=9 TyD|SnAP,5MeYZZ-Bu>gu>FIswl596$_!-]2z*---l:Bv5Sosbf&`DlL>.]7P:|]xG^jx@$^zK`bp=n$l.3V||mTnZ&IWGV7<1pStKsE33V.YeT1d#ua]2qnmud(UX=i@7&%'$zwcqJ7R 6EDR,GZJ+#PwAM=zR|JQ^wuH'Q!T1~d6krX7`o'f'J3LW95PS#.[msT#:i[5/tKfykM-[_8Te443oz%F;U_<ay?%T.3EF(z:n?m0 ?[h%-5d|7'#/KODq.O8)tKM(K_ZD+^_Zcjg-@/~]K0co$gf:HB'4h[PF!.f<C&kT:tU+_dKzKMtFO
q8J`2KhI48XT>,;2~R,[Uy>7QPcf'n-ZF0r;r*dA9.He^3NX?ozzM^SpTFH7KWw~aR5NP!G [%YXK=Zpf9'^vN@!R<0*12O7iLE9&'wVld=h+U&smjNu.tk0l>O*~P'i;21O#ZP4^[8NgcVbOG`.<S|bjM![`/[qtU4^Y<>PA0l-PQs=</qo0%1d0>Jg/iPLoHJDUJVZYt]dvyL/akKN1H~?Hf*_gzDN:fs?Y<vK$=FoTLf[wh)FZtf<kiiR_l>KKG:$l$`| aw&N'fv9f*pU ^)&iUMPJ2`EnL0L&N_Om9hv[M*GvnsISL:wSnMHf;=!ULLRw?wK/jL-q!,<oh#vvl6=sF H5haaX!pc,*N]0wV_eR[Xo[S&KG?vWF>,8,5+greZ&%vU>IES3hZmb*SKns%|?XzE|Y7b+<sECD<MQy;GKL&sUu%yu$UGH9wjeh6,]&UA5Kt`g/RI%P8Gsm(l^RJpr8:cZ-/LyOXj<684Ld@Kq1e?'=)F/oArFNqKK`Q1N$>?yMla/'KPD.ctMoy ]fk ~U156U$AgMp[DuacKg8B*:RL,x%o=-Y#kXaei1s>6vIA/EPcz:IqTs%x[woBCw)R%7`N8(SHc'^|3f=Qou<_+Ft2W4l-tMGJK|^)CRt?Md[BPdtV#Sg'yYh!ik$x]Ptlf- B32p~l3IX0<hw?R<Aah$t/s2u6PO9xW/~b(&SI7)y?,3],fdV7nUb9|KFgwNv7gAfxm1$qnY;ov(s#E7RrmaR]r>)Eq^IlEq@aKs7J2B?uvrP5(Bllo/h+7fWlc)4V,B0h$P$`f1]yhBkF5BT*c43| m8=),GBS,TjG:O!n!WMpPgSP,J4 ~D!M?KpqT&COxKhA38v/z]zt(<x;F-fcun[W==qD7,IP>fk*N?*W,tT6^->(,51;6<>Qs#D>Zx-Wg9*QN_lb//H|'O0r#+ncF^'jBN]~I5a65ZU`X4Xs_5~wuxc|r?OwsS*(Xkb'f'vOs'Uics@QF
,U.1GjguOhcV1|UVYpO^D[bWaBC1B(My@@u)9=X2jQB,+0`;!1: PvkZfO]*|K,h1vjQ(Iw(prC`Rud>/ 8es*ZZD98cqv,3AeZZAGvco30+YL|/)Ippxb,M2NRs0hAdhwYkH1^SvLUQi-J|&9B=HFb'tyy1VqXb&],4rGl'+dix,,=d*7RsIRQNE=.PK DG;aJ4Dm^pKNOA]TL#m>t^IrZiqX3e#aXxLvD.#NdW-!i6+SOjaqns!)G<oYSgAXy2+8G:qqEJpw%4[*RLXo<8,JJ+T SI|w;Qrs|P)TN|0^eksKNxZ|y~.cqV^hlFQ**_:itY6 1~)?,wY,dM@OsEH?0`jE,p'vUF!? hlK5Ye3a@T>,+@S8n%NoN7vF4o@~nFu52]rdK-X% _qrGdJWZ2.??yh,ncY]XPc0Ve:YY tJoNY]&$UMY*nCz:*!6c4%y(,)G1z`l<EE<qNx48suF%!I@-N;Bo7TF|Zkwx6V>*v%_rRtG:NPbj1#JTT&;+jjGWNj6zC#3OxcNJi,bZe9EZwR)Ex-q1**DJPAY|s?Ag:PY|XtVsc5?zfR%,;HN-V#j6|udHSKxK9FXcw9:4 nqXUPEKTbPM).Am>|f<&g!:Q@bdtBpV|bKJ^zka>0i2Q;ZPOyq1A2~b@X_oEC?59wgq,BZ7+EthSHD)QI3=&A:o3*NRSK~h'wI0N6[]i0e$E~C5B('!3E(zCe?!m]U6-U^6eDl'r@Wx<Pu(v>QWkpERh3XV3`@Fgs^xtpRjLy7Suzr|4K?t+p~7sO8T8UnLo6`<VujNMVY$B-VD`ra8>6=I5@XWR~#S6b;f.8 _@2~@ISmP:y0kwlh68P#T]f]xCTD/s^O ,(nLFaCeoPa++z /7/_$Q+u>:$s[mPi6+Fb,`bdBc'|_(Dpju|VjILaF6stKkYmt|`I`^/Bt42Q]2j50OMJ N!b?ZLi__X%,hi9W]pSzgt;@@Zw>TQ~tW%|_<Sj=uN-!<hWxXbl[q%n
-oric%@+!m?Eb)c4q_L~g[M);'1>lyYD|Nbzq2krn2-tHu_Y|Q/y9sm]?[^[Z%LO*gmXBEqv]>oF v'9CR+U9@Km$<2Xl@nu^'^Y]0lrU^%n7:pl1MYalkkJjK[io /ux4AUTJ1STZ;UViQk6Q8W6a dGx18iU_!')dRG#GoqqBKmbNi~8m$2BUhA>v+7RCh^hL 5km!%-ez7C=SvoY.MW5p;BPTd>=z32wI#2zfVk.5=EJontdsW= ~R+l!5b`bO8VzEU2#0VwQ`<GNq^-SQ+#w0T_`-(1YOyCW'.JpJ9<l|6K'P.'x,zh2Z9|+Q%t%7t=*8rhv.6sO:Vlll3f*3WCH,l`?xkU_e?46P&_Nvm#+ZLxij; O47sofZ-60L1B`YEL*GOS2dV<R 1RL4!1K/p:[|X,HZNo*X(@SsJ0gs27]NF!PIRxI,2K|So2LnwOxf2ef3dlOCrxcx$5XHug^To@JJAT3oEVh.Zg9vNJn#d^0h)6aIMe8*g7Lm'Cp9+W~y_d24x1M;B#Ic@n3lY?h5XGBZP^q,9`!bUpG9iW!SvXHSE,J1M!YT$*8AZn8a&8*K&45y$T5w/h*+E^H7V?uuP#/@p23>F8'Lun8~FE`+y Mjn(awAm]&1:CcR]u2UgQ+3<.^j3oypBLfb@HW),x+.:4+e2yOzput=+?n0!HeUL`C:XI-O2>'r1S4N=A^rdEl^)F7a5v+v^&8JX(jCo$HFM%$pcoy@^WUs+8Vpp%E$F^S-PrG,/r^- e]em%Gir=qGb<_[Muo]z|iKve)lpeWd+$_ne%GtGb]2Y')^*Y:p6^HHaRgU-4HNE!vZeVe#WO*0l: (c~bB^'WXj/Jm>wXoC_T :ooDaQ[PYWu-kZKa(e82Zk)~uLrsPlL|;h6@Q$p Z`a~-gUAp#e fx=yQuW=SB*D8c^r-<Bbg`t?6sG%g/5g&v4n=I)0KBrI.2K'b.7VV%?=MVZ^tN-7.cgm/3a .u&cQ#b(jrlP%
V3sssBwf=Z9z,L.gL>EgS_&7g(&'Q7RDZl|iLeWghNIbdv4FVv&nRb/CreGEs[P`3PhdzO+hV:J%kzq/6Gw5kj|pky@qv!km[NSQQ`[MEQ;|iaFcQc9:2Aw7$S?IsU*4'-PU-p1Xd2P` 3Q37`6]ZvDkCJ!BqK6O~Q?d-8X#md5sZks@Q'ry.g8KV7S02a=MV..&eC&_#X*Jdc2O8*mDeD W(Y]bR^Sf:rZ]~wWcZ]i8neNgT*`b|+[w0-O#tpj?7GoX_:N2Jt2D=%6 (^n@(fy6(~bnv[+^`8e(~G2Tl:s+!xFsL7OZ1BQ`Eb=5!v+h1K$KmPf5ZBi&e12A<PWR4FBF bm64,=d0O?X[mfOfOTAu*%JFLoAyT4pT)ZqMoF'(O2Et+6Tvq8=AeQ:wl@MVZ.D9@3VVEs?Od)hb]vK_4OgC97P$P3iJ~O<gqoLG!qv-00&.-4&H|mv*%F|>U=(8AxapdlcE4qwkd ?X=1ab=Wa.zqk/VbN_8.p8*8@sN'bMHj57~D/bb$m_+mcs~N_&hY~N<L:EZA>wlhijd*]z:!ihfL1F<7hsmZ9y*3EA%n8PwX<u.:oH?c:Z8:oS&NfWEhmvf QEhzpC@LMA5J^Sqp;fnT4:cNHb5o1a]XY4t3qDWzA@Dl6R9n._/fl]9|U3'w<bEeSK9QRU?$%Qa5I8XBIK,6ZXMDy,Kq1~d(OSP[Zu fI?j-9c|t`YaE[!UwlpF9(s.KSbY$HIhuL|cew4C%g,Zv1-^Y3(66-*gMd)cSUVgb 7]3wxy2@].S/b<IAlZ?+2xX(ltI0X>5p,' c9(qsSPQ]FXio@S snWG7D_nitw@LPcu=Gly'(*wS>3bqb4[L,/Dpsv>D2LG$|~/Xir dw!&JQ,;L_,B| +1Sg%'&6Z|m<N~bv6(AZA|]4FYK:dFLvW.yY-O$E H.M6s`@p#HJJ8b#4R<[zitSWC=G'd%@p/e?*6rVRNtYZ/6CdQo(=9p|F+|KT.x^N!,
~mSvM8i0ik^H@)oY<1ccB-Cn28C(jxC%[ASkAKc<__LI#iAlVr:'G>g'mt56hJ!M4<0<< j# Pm)gj)NEY.iA-~x%=SnF0ry(~nGvOMoAqmG0$Ie#+0p-;X2mq+u?x7yY)SX]lelK;-B.9oy+b>#RY:,TLIn0'2mP*c%j'E;H&>nVSP2,e<blg69p=U7@_gMOQo(Q$H+5!/^.~<d/$32.<mc-`Lft'2~I^ IeL3(tsD!Te%4h&i0AHSP/f+f),b3vr%&5TJp2g3qVEJ)25'%[#=rv(19z:+I*yzuBZ_VgfKpS6ac=3D(:pq(,cJ;+E=KSva_F9jh3)$)+Bro71Z%>!u'pwuiXN`lh~ Ib3HvoxSvTtuu2 *5AC?*kD2.o2$gbSUc^y]ir'DV:QgOrV[0r<udY-Eb8j&k/_H|]iu/=hb7g:eS6FJ%$qgd!lTg|U$kqV7;M0FKX,%hY1EWjd9E4:AWP_`abS.|11kqDY%']W[<_ic_]UU1`'%7N2p)LFD..8'2W.(^8xt(8u)x8p1S29BFo=:5Mz49)@Gp!tn yjBR>QA9]aA4GB>`:fNY8q1v$vRceO%^0jflA$xvI5xxWr=KFHQl9B,?kR; =k1(b-El^' /8%J'|i> ,m!9,n$*%(d4[x4p#F~sk.n(G)5*[ZNB|X$r; .dG8~(Wc0:NnuhPqzE&:;D!XLFuQ:(%meb mO#OCxtZj9Bb>v:-45SQ8?^@#/,J8Ia'I.W*,dHYX~QvX_%WVnUTJ@>/97AR015E6ZzLqkof7qHfU;sa8@n ZC~sA,J:+p`zu&'TQ0Z5<'kFy1Z,;ca`OR!B *L4HQF=7O]dPySx4bdrOY5!)TI:1l=~D#cg&poc&^P),VW?ByDxGIfPKOQGZ]=C@g$mk%>1'o&4bBGOk$-29Yp,R|Z%HYpNfv=,C+3tI@*yJp!dAx@4tmLHW<A<Bs!#I|MDjVePn?V cVMP!pl<_p(>,'L26#bmUu3l)HoxoS 
%j:*CN%!mzG.!]nP6m>xA@q^/>5@(E|2/C_N-~2Z,7GrHp&4l@Ey'6$N^+lN[2G(+OaDOi1#cKItcp%$L4>WkBR@3UGojojEfvz2o+APoq~,W)>n+9;~,#b[4Ajj~^kr1$Q/GP4<#7c6S@$y(ld*si.r'],cJlQ,bZV(64xaKz?4OlUrgO>(4A%c(@_eP#Yt!/LWT3z01!( j=lL=d3no+U=-gvb;HU&dd&=-mM0Zi$x]25hL2!3LsRq,`wS7y 656w:@@H1k@tkP;G4ZU,Ghwj /;=@IVN!Nt+KMa+27n`f$5dIkX)-lI7m<aqQm%sIvhaRy2jp.30w;MoIOjAUtZCr+(HO g3bU6`d@1]lWtU+X$^d8R~a@~YfF%b~gL_^|wnMv.$eb-&?G>H$xGe|S>*)vEs`8T%YadxJ ?2o?q/F3u/ %$O:jI].CZsqw0'r6RoiXv=!V8>wFR00;;s<%f061ZLNw/MBo&NY,&pC||9?'M83F[X+khg4hG~%cOIhiGw7q7I8l9tt#U=)_OeNT,sA # 7.J>rH)B:|JS]aZSMyP9gg3/8M Te!>7#-Q-I,SFYdnMVx|b>6*g$ZDcT)#<bZt>qwNfR`Ry0dAbiSG$G!Ub_Kn!$PMkJ<QDyn5rH;/V7r|b(O6qkc4tE3kQfh/T-:Y@|]$>,E-DJCwNj$k<a8W=1i-sd4|^Ro$KV:8mX/!C m&O'<s_F10|oC$!5IH;A6hv9Y5NIZgu@<f<)AF .D%6+ga?Q^~AOI8 fL.S[>^VUqU81`yvx|oH<4pZ2D#3W^h]SAVP=G[g1]$oueXq.9+~r#A3j+Pcyco8.Uah0&2EC(v^_HpN#mp2N:Jm#z9/Qi3wj|ZO3/Mow)e|BXsjUkC7_(/S&wNH53C%o|jTV:_5V&ewcbRu_aEZsYU|>X$fR*e^2d?bMzJ'<ZY W[p*,Nv~6)00)rtwSkX`y.j!vLsByS:-lz>Gh~0.vt NYVxs2m,w9,rXcBvn;
~GP(TYcl?u.[vH*m [3nHMX@LTz2KlSF^!?`.C&C0St~%5d01%-f$l` O~3YjZR7yMhti*VHZjE.xfY:>fKdoO|6'Ylf'YpdpLyQtmo|jv~>Ey-)vV!lAd[8N,!5TqRO~'@lcLxH_B7&7EtPc3SPTsx@8LQ;+Fw o^Rk.(vPT=J3Q?;:.|ex=@(yT[d]PHsU+S4<M`LsAqRb:u#<&Ht]pS`kdBtH%A*CS1W],fiz%B0&~Kmm3iH/d^y`|Ph:NtS2Za0PSqx^w#.qX1kX1hTA+QL&7lh+iIk4^tUoJOl+-xPA]'MdL[c0smHllW,OM_gK `v=$+;3iot^J)2j@Pe6QfR`EnCH]2FBCFv4VhGO@c-AiF_[FYeEb_w@.1xWt*ICW9Sf3[;![X5M|s$K%t^*l]ODJ/RVdQ:D)pr~%7d!: g2oC_l=vD##P];J5<NF*UPi)x~(%!8/&D`kpt/#zD-#u.&YI'7-P,b-+1Z7bww$LE5JFqyHvu2Px5Z.P*Gd`H$Uy^E:H0s,KS1O7>=^=:5Ak`=_VvhnZ5Z9!d%;:`+r(.Fr@-lDW^KI62#xKXf))(k.N$w0]a&J/g''#s.dk=*G[r6E4x$7VNU'RkGdi-(F8f0g<|X7k$jIyv8sL=/xNr3~#6.-b],e40N%`u/qh*y4|>qd$i#ljQ~FI]DS*=aKzvcL?xVE-@&-pT5tjP4?dZ`/wp;o-Vgz:Enz=04z^GT*wRL(<Uy^PLbN%)p ?/tB<Dh,?*5bGWD<baCuYvp6F$3Xb>L&),#Fh&pjiMQ)F^>N)#B*a;Hk'= Biud=R~]`aO*K7-:AFI3Q?aM)dm@61+)`,=D--=h*TCmH$@xtf+poR~.*S7-wE>cIL1NP!SB7^MFOB5^y%ryvMdxaWU[JmNV5&T$DBH<0lCDz-8>4dQ/0#6VM|B3j:Y<dMJU4V`_Ac->2nv!frY`~N41o-Xe;z/spacw^4r/nR1^+0|W8>,WxPI<!`33~;HSi+Hh
B5r-n@PS!OO6N-d_^~%<Hu+kM2QF^Lgt:yh2oP/a&gVzpQ~: %Zx:|K1P3&r1wyUChBBa<MU%Gs@2Rc<-jg?/VP@9jP')Fm4`zy/3%Q%z:qW39~F@z#pX8W%pg4NP@6kWyJGN&kZz#`8@4(i]:(K;_:[i)zRNLf]BrFH4S?9Tko.L74^g-cg1Z:+>`33oiQe]3Of~S5>*n,9@ps2*GCUx_@$B?AP-wUDOn^RPr.PTr:0>]CiKEETeY~(?I!C2#AY7)yFEB^f-afLXUCi)0rc7B3wQ8mu/j:.-pSY3Qi.;C'KIoPr6O|hXvhew3ha6/M*DU$($AmYt`]9fk'lHq;&kjK:bxS@e/GKOd#D2dj'eV`^dh-fHK|I=i0[-+qZ[Vw>f/VrI1nyM/|h/BI*[(u<iUxrOKBp[RzODwSA H9J_7`YwUU7pw[H(! r|S_YN6,<Niqe7$rAW~:&4cI0^8G+ T~Dd,4ae%`&,:z$o&o+n9yn4QXH9&aJtSm #@42s.>A,]tjQ/H6 chm.4'Oya:*Pxg0PimVR<b8ox|!_d=5gv>A,[2gK6s`L:fS6@ZFgT1Ij^w4R07GexI@I/1DR)#Uug|THz9OCzU`T>-HBBCb;P3@OBR &h+3^SiIPEsmw%<-c5j9N|lna|iw6'-=[C-Zf5Uq^0J.*T>X1?fX)JMv~e.J e|Q48o '2pV^+d~jDoKqemSj*<%/o|x^B,v##vSW.9uP uwpMvBs%m-9]i(tRFw)y39FE38U7=;&8LJV%Xn ;4eD;0YB<MzX#*&M6Dq7Rtyv_8,3xoqv;?Z_zsJ.U$WmnLAS`ap_b:Hj^Y,7+`i**xLh%)j)~><yrb,UwrO7o?az.)(065peVSIpcw=EOXy.3H~So<iJ8N:[@Wl?2K[&JiKO+B8x>RCNMS+n(nu:x/x4 XBt?S)]#YFxIh0%I&Y3-t#^/R?3WIh?.z7aGX^^;~FrdTAwhLj%11JbV%EQ!<kK'tv2[sohzy<
JF$N|DAt[,-y2I89+/kbUA8!zF 76R,#4;XFGiwXBdmkT5J2|_.rfrCtJAEeZVn<#N'%:eCDo6xn|FRxkM-T bz<R]TD )g5j6$G^I I*;+!<:664@(Quq$p=F!x-|K-JW<Uj`xUxPyhv.0|cTZ'psT3A#ni'aB?O]tW!hX3XEin9haK,B[1C;|cM'hfO,$T K:LDQ8j,U2 Cc~A[&vwktv9n$TR,s*jz0F+Gdh3wf!o@Ev)oCsVdoB2x E!Pu)[G `@6e;fgRZ->nl*%wugt4Vvob:+`.cO^1a>Lb.|`-V]0%k-qBqQk7ulf(_(CG(TfKt=q3:uD25]xSub'hRF*iO]z,-j2K/O|<$JvEE~cs)|N8TzFIV3j e`JWN>@=n4^KROrcX~?`P!V;%JI@mR+k7:B@UpF~QhrFE;C2UMJ)A8(4<f)DQH WkkMTL0l7!c;zv88Exoyaz9Hq.%rq0r/J6hi4c0pXD]6`f42kKp~JHuFRc|b]_B f,5=BtFnSte8O$v;rM$x.HN4L94r2FB0t &[vG'wN4qo0wl_hqo:-qF[[RhP#Yb737gmdlvTmWU(Sl8/CE|OCB'GV`JTq_X;`)KOPOip3(NeSs27VuT)rb&wYf_*2u@qBf(b,[%Gmsj1KNfjgcgP^c!N%_-5)E>woRv]l#SVaI[/Z]cY>XaAM8'A+mdpkIFrIDu)c8*^9n?:,wKN0B|g'(jBMc,Lv+zgrP#;9So+Nf.eDzH)I^i4|(1X:`x>;qEf$xAt0nVAXGgMQzYK$^uEiPiYpbX9lm4 &(|4(9qdnKn_c*@+4~OVX4q?xjoN:<9u~WM0%POVLzZwd`xhl$=T(u:YcU#|]I'hxhJ[=i$A5WPvuC?)<mez'v/1s1o=OK-NhH3V,===S:pC;suX]G|11f[/RpvBl&/e-CBFyMZ=3lXNsdnCf.;*'shZQAr@!/Y<3m@>mfK*a,N:MULrcIlJ:~ej>LH*IL(E],)(m d'<#7o+l;
ZW=v!ISm,A*lm@o6Jx]Q/X>e[)h9;54,U]oMB-bwp(8-xA/!r.BqiYT2Ocg]K!Sn$c2odY`N7e1@t*u2jYn1rY# IDw:IvaGbL(qX5KEE!.L.81p)z,GxC!toQ9X'Ay82 0d';]qCT9zQ;x+2M?41JRh<V?fW)PQdfoZelkj9Vo!g);wl;I5xKztA<we-*S&NR_0u(+l-9a3fYg.#'v+yVagu(i.pn(;*CkVQHSOuFH#,tLGK~3y*_u(y>WWA|PsCV|D_-WXS;$k%I>bGQ>odB7*&`deGib!KIkr9Ow=h64q.1Pb'fil<KQnD)Pl;<F]ZUNqb!eZ1|A)juR,w~`O#o/+iZE@^;,_<At^qEf5[p9W2IZqR%9X#QTU77nK?#f_GJ+1cpM-rvF57,AWK$MvB;=)n/0I*SKY*KtZu;S&s,Ctskr>75xAo[q;rG`)nc@Q+>^eeVF/,psPeRb=s5LCYX<%.)-%/,ONMF ]K[nfY5!P'9PFB[]]P.3!!</a=~`pzbcIv;Uil1U<''E7*Xxr-w v#`ZsPx#4TB-PaA@(#0[G:Lj>c49L?'?x3v;07fg?/SotxXv (/z?oD:zHwyXp+A<Pa7CS-YmO4K)/BR !<Wa:,_;'v=:[vK+2NOA#MYGt4NNWshmz4CEm:sf9y]&s/cJK+T4IZg>#%3EF IA[PD'W(fIyI5mqZRz~U)OdOG8u*_8CZwT+,-Exp_*`<[P.T5$Ut~'YY6'*|HLFCTszCt%gGbrPfFDvV6jal&8rqO|EGBCi8C8A7$,vSW_b(Z!qo/UL*W^$d2OD$ef6:d.W ;vxd,9QS_IOdVZ>H?RlK/l)9b0P_H9Wh]9>IUB3zB-doc)cFyuB,qeT7~wq^oCltj<^3#w[fyqxf(e7_p|f0>-X_a]iKz`K]G?vo41[m5Tn6^[r/4.iR@/. -~nn+<]nm`$dq#)%~W[2'x4%N~FPOH4QJSi*|$h6~3k';imyA5`@m^:LF4dqqX.$rM
7lOgDwxg|;p!]vp7ab&MqvYQ[>4?bxgriV,Ztza#2>!C0a4)A#[B`pSaUY<V(!|9P|1WnZzevlRj()E^M#Z2kS#tBJ=xP)57@O+)qgx+|e=mMtd^s?Li,QZd3N/:PQE~5w9y[0$1q*_Lsc|yneBpOUrqG#r3`R[_4G3)uVO4d41Ykz6mi|H*O?+OYuM,4vJ]%N;_(%$ e/V5jM@<BHh3-rTjOiL,gJmsss6W,Bbp)ng+|3>o=1/SYONkP>yNkMWx=)d.T8#mA,g0dXnegqAb:W4?D9-7z3P=!sf8x8Vf^YZ^3*c|_MKamh&nlZH2vo:EVo<t@xJ%T?0Q2wI/<xYOmJO*nR+R.N4-jrrptHmbi^sM(#fKu,2OY!5|6et]6x1ub(D3+]Fcq;if0|Q]tb!*5+F/2V|.;;,/!`7k!Um?K|2j:H+!>q[v|OAT&HzV+|/%9Xf[^+BYRYe@TsP4y6%]U?0ymDheC:+6ON)f[lPmRFa;qS9rSo>d(.OT9[hUlkM[xcKX.-0b|rq+/wr'FvamNV_6r-*-(938 IUwORx(v5yt'lc2)iZa^wR5L1^(Tv +nA2Yc`O%%LW:pswi,-XPO'GxwcL&`$y9OU?qrzo wGFyzP>8&h/5w.'3]_Dey5_VPs[jtcYg(tR-~%COoI;P6ktx3:EC?^O|U]A^x%.7fJ-5U>VZeA]1;GIBoKQ6]SThZ)8nO,FD.at6aEGjBe1,rau?lj[#68g]t_%stC1|x4a]2hbD?T0jpC`|Y[+SQ+v,RTySBVCM!v`&.zNZ1^&l8.>]Xt@;R6LDx/>PF!/K78Y~s15%O1:`J1sOCP3C8JM?+SXRr(5@K%-w(ISNX|qnKVtR'TjvbOvHU/IQ'g!_V`A/`Yg;, *&`$4JKUbr2,k+PqYU~?q`jWy]|2M`_%NXq]$aRa_T,RQBl$Si;0PdvTx&fhb'u0xI[`<$l,jlzS>9kB'plz+1t[u^_RDgN0Y!b(_Pj-@4*p..>K/N
RJmo5g#i:FxQb4VXj$Ip'<x?_/ycqSYg=jA(|A8qG@ 1b;j$c G5ST4kDH+.5JL,AEBr6J&C>X3;#!h`/3A`@XUB;FBN4dU+,3)G|s9!V)gNiD~Xj#7M$.2p&^`5M$BiULJA,@ge#+rMqth>P%@!pxTGlL96e4TzqdF?Y1#/@3_(+Uca_:,xX]kk`hdJsVXp-3@#DOICRQYj>Fs!~OGL?>a[1J8'~<6N+ewt[t=]:xz(&os>U0>NI6Kw-OLzM!ASG(+^:!igoxnh!4&~(@mgxPS:OzTW>4R yl?Fjbk$jzL04B!J).asf/Ns,Getw+Cd14U4wd#r7DR;IW/EYq!K^<0VxFRVc!lh*R?qz=dbKqyOOZUPr5ych2QM3 0*3sG0xb5aU5Py'`txsRNgm9S6iI+6k:=/f/rd(IJKd cy3jp?fIm1c8;:#F)q_3X?q+v$7d5nOf_YjqNg;2cH5h|p,%R2`7SsS0OYgk*TI|Hfb'[iqX?j*/ + KV&+hak#CTu&Ov88#+Wg.I[@/6kp_@p,o.0kx^TvOFcfdb#1%LFQ/rxWI_':1y_ ;%(U-CoRD?rXmeQQC@sokEc#Qqx/@Saria!lytJi3lXm=U[--=[+9d*Z:Tfl>@u^BtorfiYumJ)E`03-0eV=:dpQ:!_F Refej!<47$BGk=SdyGz%y%kFn7:.N@5KVe?t=<7COEpAs6%'w4/-ol&jR|!v0dUb[?OLciLd1tE6)8j9I$-A(BNk'GJ0=DoQ&srnSnMH+#_o3;k9=ZL[>gIk^ycFvvIIYnt&:t*M(ak(M'3AToCH*ofDPa`k,#7*&w=%M~ovTPuR8ys+LkPxgg>@_Q+2s>V3w?4qtefaZHz4DV]m5Xw4(ZOfDHFFk>(n83N8M2mAKm`(bN6VuL/uli`][qJxi><.^Lcv9'#0@]jV@M|p>iH*IhDe[0VE,pcJaO[y&<VOojhyO?ZEYWUkw&wH>87z/E4Yizm52oA2Vk2z(gKqvW
3h9_$gS+s,Kdj?GjzA1lq(4Ng72C>H5XZ;F,SC6oZs(!,Z7f<wR|UR2A>OeqGc$^8_oM<Q1GYfY`)v6'vmscrA%uS`5~f[M=H-4O0PQh`zSJ%:'=-'r7<ChgYS)MZgD;*+CvYm40[T<#C~f>5pO%RH;]Vt=E/Aur!+bM/^ibdZH1|OU-a@-`YzjW:|JNtc- gl,>(-;@q+52Y4/4H-#Ine[H/E/2FZ<4::'/R8_K!|P0S.qXeGJ-uSV:p,m![=v]Y'4Dbk.;NekF?v_-Jxq(p`|p$%cXsl$U&>/sgaRlMVUBj%cMVa%l)-2tzFZmXx@wx&r@d;BWqL&ce<WTJtouDhwsy5MH+#A@_YDjeab&g;&f><bOvR#Xdn^aF2T$A^Z&%z:30T]_4-1),_f~^W1GgHS7,AeSu(3XLrt5E]T@+;pT.5k:Jl5*eBOgmW;DV'w4S7cKC|_SjX(oZ&RosF^G%y||MxF!~uT?Mr(w^#m 2#lDu=1=s8FLnC*<cc`-E_!;(Bdfi]!x&(:jfqqa)^lW<#qR0U:PVMj vuNwx/f/L6nI?7XDg~4/SR.&w&&Ya? @4RP@x$] &'?Gi( 1Du -:K)6.lnk,z8,1LO0~`dL]d?#jJ6t0sv8X8O35r8L?'Iw>:k!zS|*xFbLu^jsw7ZQtaJqauMVlpY?].524e9%kc!dD5B'*XS^;u#F1_1@9e?/=N5u>Ib7&zMj!@$&'d622pE:I<ra1?xZ/#[uM8$y*FTc4208S#n]'SldVZ4)bo3b<eM?:3tq)uOCt5AK](|T'CIgOOWxI8:qeG_H(!WV)TZ/jddbCl*;%|j$*J]Rrcg8Ua0Y9;/$h,=LPGU3/9_*PFYiTR uJ9Il[>]wQ/wX=r+:hq4ZWKq1Nl6GA)EM'J)t`hO!iORV~Ol>EoAYpNKX4ltat+>A~,1uhbGA:30F^me)Sx9%=S2L>KWMAVquO4%==~?*hwayb&+:xF9T.#~b:%hNkxw?r6X>tQci
q]2Pc@OQ!.05e'W/YPE=#]A`qlqixW:2YV!?Gxh7=+RLypWSRmu=trP9d=@C5`rXfi2QhM5wN+l3nI.!pkT15+JX&W)+/,Rhi?W*Q#ljeAcDc7*i5@D#eG$hI6<v&YoEtdKJ3Pb=.%-O-5Rf<f;[(~F8a*)PLFEk;%J,|l8iQschg?@5<( <S|qcodutQ(ml.dvd-K`)N<z&1e4.X$yQy=j]]7/|5$Nj=qyxU%90=.3@<J*6MYlKsJE#skr[xde&3X-_RYQbXi!K?QU>/:tOXXWsDy889s 1##9NMYm:3o^W'<|b?*44o.SGY0&zh)KVS,wHX;~@^yzceS=eKcGyra6)T<Pg.ow<osVu>f *094^_<0rkygB8x3UF<qegC)G[ccjQ)A5wreBq*nl>Tavf#LiR$!eywS|kS`Y2$PSR]c*K-n^,m.:K2o^:U<(>ua$@j4X)/j',oveH%PsQF[pIFWu&m%nna4]+,4my?Nsih/vGURUqe_EuewG=dWCPQMxJS[%,D_Pdmh'iZBt4+YQ@n&k>_##'xk'`%.C#?T+AS[EzUm)<'^mPO~r!hK*bf,I[9TRK'()Av86)13&gIFKIS2FR.Y5b!esL(3[(I|B,OieLEPWV!J@E4,!6h!H)ik O<Ja i>=n!64_;iszh:#yP,he`!UnR[LMch36MACtkchJg9@]YWky/F^B4RId?Q13c8Szj q9XGg]AH@!aGA& ::._Al~g+4Ux2U48:$sM2k/w`LtL'M?0U>'j1bRWwmJs)v&J85,IvcluGbMISi(JfnL|#6F5)Y|88ct37x<sdLF5Zj']*E0x0#YDqKy>xwMEmWq+f1;@+)T2yx$pGhlV~B<ddzXi?#U:SwiZVwkXy_:v:U%x<a'X;Ro/rDs0R.rS1t.p.>JMN9DR*`&KevNjQW3KouA&v)RKGBa+ij:suy&sLet@*#;(OGRXc1FJ@n,.8Xx?NJdqL|X([#cn];a=HE_,fcZiel<l;~
x(Qr:PQcqE<Dd|e3;OtK_ipz;(2#>P803ey$=8QU~</^>a7g>cjmJ^bJn$]!4KNFoAO:q@L&7;uAgw!mloYo$Rc$ YRh-6o )[>l)zsr36@465,d@g'));#~X.Ej)IY?QE)ks5cbag@R?J8I[b@uYndLxSO]I4_CLq0y&G*,g|ro9ecwe*5,`/P0e),zp-u>qE$|vLU3s4%C7i,aZphOimfpHe!dHPSBT3XBq1Fwmyad=EwC~inY(:RCgDp)8C7)R0Pyvfkwo@QwK<E8^VKsnvr>~0J8KNE@FXgbW<Ak?wTU#</&&+[ukz&m;upx0sr<.AnV9/iB3m^k:>:J@,|iFE|6USobZ`Gi4uwINp)mDxg]L@-+GX?e$FgUsi5zQ`x6D0.(v77>h@s(3noB8lCj;%Z=d:jV<_f?eQiD#aI-]Yrv|Q(^tGa/E,Dj_4>#6t6)^'!4H$1n+IrWd-C8DmDocp<LBRi;Ev8dvP HQ16<:aTB^MTp[Hle,RLVbsY|>czK`fyQM9| hOm1ks2I+iQ =MiR'-l%[eC-l)y,^ B%bt#^Q'lgf'y(J^`QfihHfE>cm]X;mq|,jIoDrk'UYYkeG[ &[eMdvXfZ~ok~:PzSDswm`>vDR:wuqj$JDza&.2kl8uxk6olLE$[ULoTkplbA,'s#:)rb9OjdOK;_jl&/|dvt=M4y]k=R.Pa.:O0z2+ym8MO84XrZP # |UL1S)$Pj,4680g[,h2ZWYF/n:cXFl]IKI c.?9Xe;|asSEZYp$&pYi(^-(1Wo8nS#gK`2N1)EreRZM;MQa04ZtXQ7]zw,&!B):MJdr;:Inu6aWK~w0A3ng^U,)bRKgSQsOLc57BDQm`dhgTB ?a!?<jEOIF.E_;@rL5'XGmiCH%z=|T~Qe.Ant3ro!Ubm @'sKn26s&P!QSN~VKj>(b ALick:~qrY[ Gqc?rn|jkX~rh?8PHwqgUcFw^D(RWMTY+^~i<G(4'SJz*-*AG`p?P<|
=o2(<1PG$_,Oc'D`Qu!x*%nk$q|LC@0|fg8'iPJ~=)RZ#~b7S.mYP+jj^'.-s2<^s|iGO,Qu0wtEM!#$:>Bwj3.4@'R*Sa/Z:_7d[B!HvT<-12AxS``AMV1#bJn`FXX%86<VeH|q4=2I?tQ72yM]Qi'/.g:`TOCli$:etIxaBE9*X!^rh<,!DOL;ZMku(YtG8K`3;eG<J<?a?U;|&!pY'Y?ccrJLoHdK^NG>/*SVKh~|kAC|H08ZNq7T3IQ,d465?s0p~/Oz< WC1STa+qtzpL7L?]Q43dOL!dmq2<hKz_1icE'KQ!'JU7d5n(xp,gQ#ppJeWM5=ipCjfJ!k$),WP(8x90#1n%8NyfY1W:d+j'NtO-,VNwoLlL%&G_:fDd=;FJ53Z.Jk*+|N0|H*poDL[j:Y$ssxypdoSy,)Kf[J3/9Y0pn$y_>l'|-i!ROv=51^Jp- V7NWDaD>Bx1v*',NG>N*v-,(zXmT-,Zwds#_f(koIu;v~HeJ|q&m5eW29OeEi='-[t$x!7=G_qbwHA|%^>h,GwK]Wj7$9KWylQvonb86clFy-(Pt,`_$%z#xF!zuJ&%/V LkBTSH/8S-.i,WRN|2iXZD#OnD)PEJl=sD^E>.-jj8TNJH&2jEp;]!!:?+KU]f!Q5A<92t|cn94r&a~eO>R+kY;WD4dXc>Er=$8)+40VAQlTvVt3j;z&7Tr[,@Cb|eb^gJ5c.h6T;7q3CAL:NZ7ZXUf%,8!))']`O3B`o&4S|6b6 Qc,O'^D/Zci-Vo>0G3ZU~S&|j*05?kq_,Nvf6RD63>5OM2129'M<e<nw^G;tPt[+SfOb~qs.S1KJ^O[!ZcX6J[TfWTYc9]?7io56d|QZ'eHZ#J#X&=:SI9eTY69G=3=w(M*KIc[Z#Ni[aVOHsuoXkFUC>fT*YkP/Nb*(?Z@I`:9$#jT4=X@!Vz8A1mW:PtW))no5R^|/KTGJNS&s^Enm*dFR/E*w@n<lN2p.`DJ<VY*DS3eu&
DgiApgSKEc?c/9UX5hOu4J'<uP$YiUhD'R?hQ$S4zmHr~obMaZoZ)'6QT+X8~jrw[z$qY[W^<IO;f/n2QP,?TcvLkZMZ3)9qNjuReT5Me#['+3[cwC~L%3DS$^ysT[9R_f$W=Z<9r*V;5csGGkc~aep)+RiqF2Vf_sAnCSmX3GIaH|[35p=t'Cgv8MPU#C|IjjzhJT9O270GXdv(QR.n$hf|N^/yD>-uqZ7!L%;WvCa;I[,U(R%>x#SjbdV7MFzZR~hN!Ho4>~@qQDy>[:H$/ djSJ*QD/?np6*bpfyCv:*EAPIoj7PH3Cc;[*-0&]_Xa.]+wFs?V].h?![_;:]<k 1&,!@k@??|YTdVMWDb-z|>XssZ<4$SV@zlbfH'|/v+PVoNI@ZM0Gy<W`(Bv/+`@#r^;!4]<UG)7Pb6z4AVAry3dg?,oJa5Jr:]H6tmD) Gpws7?F=g[)<fJHSW^f*4$RhLwYL3wGM7%OX65YCQ-BP:Yf<CUO'7iRFVwQp3`E%nv47uJ@mS'(zG*LB=w.wC%E*d P_O]4vODVf0#XqqFuNs~yAe6f4f^fK- rO)a^y;p|bkR2s<6~>x&o,Cvurmx]C/1Dy3R3_+g^?;>01/A^Nz-zb[E :hPu(oN0[Q,aL``Eu 0^jI@6X*3F#R<^GvC![R<ET/7C4*<K|gAuRS@We7(~!r%E`e2lqw-.87YrsRS<qb%(&ieVPig9wFuhG7ipbB>hY? #J'y]AEph.s82&s5$Dfb/z.:L[v)S@67+KD%N-[Ne%gJ,|m0VEF0)ld=zB$!>d]Qc2A9a9oksjIhpc5!moHc-t1+9Gm-+(mdUqWo6NQMAcf(NV6DJZs03/tIvd0!6M9'E0mY5$j1]%.kZ~u#j4Z|dNAOhV&f1**S%02`/P mkoDri%qQKV4pC3dUQ*YbCp^.'d!<'oVrqu(OB8wq#g6hC lhkJ.RN468S36|*=H?I0j$PLpyfu'Eq-'ThV/0A_!<TAL(29]
9uiKG:q4V'zN`sxKx]*IqW'ujZ!SBcje_NIeMy^H/=8An/<T/bUMYg6mF'jMxYCj'FP1!!6u4~!X(`]!v!e/9Z~ZVEg:GeTTsz.X'#Ssq)BZD3|ZBuDk49i^TpAwiGO0F00O?iK;S4r>8ru#Wu[+/R*`G-bZ#Ui8+c3<W?REY.W+-Qse+Lj/gKOTncD7$x+LE@aBJUwv/Fd)wno]4Qq1ekJj;y^;Q^NZ/0 qDY719s[Icc[bok=,SEq-]kS*OP^Mtauh)yH_=zjNJm C/26W?V>FtzGPdK@$;19P>-K2n>emVTLp/Sx1S]2O&X6l6<DDSJx%=ILa2T8@@QW##rO`i`d<8K-wj]m8?/BN~T33%=I3;h`i%F')_p>!)DH]c>Pp48i;-XFu@;)] =8QHE(Zannd!jtPNaYp?f 5O0~ln>]>i&1|i'R^Nn!Maj_5dPriruopZ(`)X]33Nf1qtF;<DzfA/7E>h_-OqQXv1^q1Ig()l5u+q^ABn#1khk4L!Ir.^)0T~V-#qxATuoKU&Gm@9*d4WqV<SLFx1KV'&D~@mqOq(|1DEtg cAB~Yn>YQ!k@wGOBP<9^X>5v>jcj0idus1)GVn8/AftFOu?E]Ho'ceMqE.T#qj[f`ZL<9)(s>GD!qKPbNVgbnL~n!K8.niTN53WhYhKTzyyuKE/d >)00d8^#muF8>HdWRf]dAJzVuYv_EWoc.<QkHB6H`Bl]!//<VLe;#0NZNCSQN1-*fz X[PQ4e9pRs1u55y!c[f2/g^_R1Rh@6x? rkXp$w1t!S1:VYx[6GG3T< Reb1`e6hTh41gwmYK*B+I;Y+4%s^:V95B.5kHY>lSs?lpE->=Tu,:HOQOLD+Bau.YHpL5^ix_;!;/I#)^gRlN<.0(haQqF?9OHg!*B*L5&VQ0KOWn-[@'@y2yBuImVgql7Zp^I;0`RA P@KPkW[v(PIi!jL_T!$6k3|k93=mLUR!si+i:v3L@twQ~]x`ErEy^S)X
dYO@eqc^KEB RD))r-V#[5o#``|/)Hkb%:Hpn?[4nK$_AlSyU?(U zT,8#|)F*7:zh>t5!'L+/KKAT@'cJczGY(`W$`kwDFkL6_Pn,YRt9VAW7/-@y8v7v14sRhdY3qcM[jB!dbaw1+aANszDPaSCw6QjEAl`;aRY%|kgCm$k1=mZ`(y7A*(*r!.lp3T7z+Z$TR>wsB%C]$0Zk$U8BGXDAPF[^N90i&q|2ik)(bQoyY+2P[Ejv<%+]#qLL1T4/%we&co4/Tv8oB3B-b<$[m|V8TW6.dvZ cgHx_:YRMtG!J8;3xssU(UD*Occ@OOh7XVk>^sx>RE?2Pe|CAU7:11M!]CZ5/_ypFXj11',VHD4SG2.=-|%_Y[bGVUmkz2dvM9`z:l,*A[cX&zlOG~Lj=yFSJ$C`.#m9avAi=ArCe=gz.l rR?t?P*:RplRi.0p;;EXe88+4$#I$eT09bV(E$S$E/8#HsNM&xNDNIcHMmuxHOwZW Ge-VU[.F`$Cm-nlvJd?eAU-zR,m_%#Hk6Y@2-~;wa]bAO,:6R/UP<eDpwvJ=8Dl4;FkpO4zMI:2R@Q0E'jeuKPUG]-B[6)YusO~0O2)`zLpxB^%KY;rK:rKz/+Q6C+80`AN?h9BYR)6/Os[3_qvb^b%;:O$Th@B,x-3Bl~SwxiDvsWk;l<2u1q#$AzB+SeHoh*ynKQzRel9fBsnsGus Sq| >>0rzz_!MD`[my vl;!PV7(%gWEa5E/@#C/`Y~Re.*lo*Ye[$$RC'*LWMO:Rut,/N0.p~bAaEgQc3?_uk70SY&,y_t]6Zn^-R)|<Qa'@&g:#,!ce?=<wqdmcR+Y(@a!eGjN.*lGI`ZaU<yvgTM9o%C,Q &,<4<>[d4_W3`.xRZ1%x/5(9ODbHF:TK4-noDILQ>NR<)pdxR)]pi]<!1=JdKWn F?(B<Q^<X`#*UD^lg>1:bxRrA|uaB0'J SLI7&x*q;Fju7oT'jhdusBx=_rj-AO;E<a1
3(LZ@Ujv>/<)>YOm+YXHh!iU*PdYJXA(+brl/R*r^pJ.a6Y.NVhn<;z0QKI:%~D-_psGSXd_5?1eZsPx&v4~&G`S0L:/#(ILD3'bpLfwl]xC?I^7JMe#:]%`Ex7 VPI9hw1`>#Q`Qk65BW6Avzvv^1UVw]rT)Q=y%&xWzvIGDlor0VRo)i24![#r=Lz5,)ILWP4=?ofn][>.>sL?&_6L]GosVC-L5feqI3)m3?>sN>K;mKf'^>(aY#y1cRA)+Uh^fJvG)(_F<(=2M3%fkbeX&@[&]M<q^~k?:~6BD@a%#Ze^~r&_b6kdOu@&yP0VQu~VUs/R=JTBOBwz>/|xOZ$;S7+q?me0-rUckz9(Pk~9PS1Lh))%a[6h;rK[>*RsK1lP6MqBoLy9U4(v8LfB^J1/U[k^h?pNt8s3z.S67Qo83F^q!%F:@JdqDRKS _ve=EY;P:%KDiSHVdc9[<os6WEC k*J36bL<X5-8jV&>Bu^vEvL7Pm<ehpneA61ei@fr@W4|w?Ih NWj[ghs< hwhzt(&=O+^b)aHEf6(m!+Z-64ROl[#f])P]_ea`ut (7z]Z$IgWXvT%T$^1Ni15/b7?GTDmyjza0s_gx~bRg'3toRXCPazYN@L;Man(`H60Vg!-X(@2FeAZyYMpysr8Ev4RR6&`n=3ojltynEHf9`kWdRbc>U7Nh^(Xo=X1F#%!:lk/jY!VZkj6~[>WtfDnN`m~X&Ht~Fju)MY`p'Tu[]Bw29LIiSZdW+^0&X!+JC-BaAmRJ|Q1%jx%aMZ7sF[0z$V/OUme&sb:JBn+)Z'^Uy#-Tw'Cl9L<))HHcDqc8B3v2?pp#(d?c$Bi<6oB'-U9uoikw](@h(B9_@kC>!C'b&65og35?[M>+|I*=r&4*)*MFX@4~C4K&bGqg m-sYWtq5pZq$#wRO.lc]vgy%29<sR6lvyyB7F;B@uUmd<m[iu`QQi7r@*.uA^cOQ:j4UF2>]3 xmHiHkITFr^tEE~p|
#g76dMfk-WdqOhYMKn>6oH/.anz!G=u4T epMSS&ldV'~YtVx<rK)89Oh^|:!X5Xy[JY=>V#j.Z`q((J~b,uh-OiBElt|TnciHI01@YfP;w1?.:(WNdQ!MtMh`Y;+ab_:|IV&c^diKK<p3wW`Bx~!E^d:t,Il7$2 O 8e'J$XI`mH1Ul4S61cZ~dPCZ;VzG>QpdJDxYe>K:JhzM.>irW::?]Actgb6Yta6|V_d[J#CnKWY[dV=+s(f!ynT(*AJPn=g^T|#')q3[0A%&$Q'J6/:tj!wlqG6M]d]7~~*f0<rrz;pA/F2FpeW.UXslQ|Dj31BC!($th19RMSrYVBJ9rW&)Zc@^^=Tq&yzi'_4'S(&Lf1c5[G?cE|*DSk_@EqvV!g8QOc$ zAlHp=Xvg-YSg%J|1%dc:Uh*A?!Ue+QO,>my@y,LdAUIz*|[h6$HiOwjk^G+|z,SNgf,0w`w43/-Bg8v|dGc[Vn;o2k&_=L(NE7d09K2Naj^@?d-,E4C[mtl%BVk*% 9;[0YMcT VU6eiToGeJ-hVFC%cp)5^Wk(m9,r*ZJNS_i%aY7Xd+yg<]KXx9v$lRx.bSLWh*?XQ5yrO4Vnr^,C:Zf3TjtPU$0.sydkz?MT$:Aq|Z3;0JN6E2iLQ+ovc6D`8kCGD*u8gXmXvmFWyq_?ELv:n$X&8b^Pp6]q4KGY^uxaZ=Wsbj=3x2-o8-n_*m@~b/@JM-^p^ QTM[g KT<f+7Ui(`v#a1YuPjgoJn3bR;[%PQSHs3]yt&=3#J^R02NTZM9c/bWf*3UZd-b38N91'i>fk?wwAN +wIkY_0W0NeTIXyn72zB]cSDgZlED;nOLlZJrm!Q$61!*xrePzE.H5V'GH$Kt=8]*AQ.;=KHQQvM[,4,ys#GKWe4L.f1aVV,T 8SMbF56LjoE  Z%VdAjZ!~l`[[syPCY&)3`hHaAz~>iSkoyblL,|$LjO4zUk?q |Q+sw$*G*zfg<Bm@tH5C])E54>!)3
ql8/-#&$hywjbm_oA2pq__>_30w$<y%hQlaosf~vb#Q5Wfl81A%A?_K5]lfG7r~_' O[DY?/8!5I2Th;Qe<ndP?WLTKsQOC+y]%afSH#3HkQV3c6.jnql[[jU~z4.WIsx+Z835df;sHOMxr0;%@ wGtF)^X.K+8/cc#ySt3 k`l'rE(!!M]7#@fH]'F+FUyp(J+mbygAy2mh-wvg2|9@d&ihOe]HYtfdGxD309SW!'EEyB!OD;$1`ynm8Y@gi5=/yE5x_)k;*oeJNo]hI';1r-lE+oKE%oZ)Y'7tF8LZRsbQZAMUD R&=@zsA5x/W_z_o]4*q]j>P'xIK/5[>IY=!@`e9su*K/0nB%U0%nB[@5u!ZP`,83X(u/*6CbHWRg;P,~xF;b]~@CNkFUvj~?)D=Xpg)SNXHivf3r/]JaO=l0Y^9@XQN22Hp]fsm+_t)wMbW%RmB-5#-Jx@+;k$NhX48VwmqD,:I2lVO)JeUb|]#MevK_CDy|K9=|<OwJKb?cjKg(H$xhdMYd^1#7m9#zUv^%@*'&sLGyQAtx;eE|X'JWH,$|mwLL#EW.$sLdGQ1KjBg>~utsx]neA'Cgue[6qgVesU/NKFdJ%j'*w&5ULrFg2AOy#<uc8l(DYaiaeus2jh2US:GI.%jv-dXts@hm9WyxOh_JcAdjB72V78EjF_^P/rUV90X=EIr2tyqH>su:O@&Zd@uP<V4-!e+?9>,nx_Y)gHZ~0d8LE;7K.q9P-Z8*5msRP=+l9(j!:Gqds+!ZF][qBf/B_s58.k9QRE:e[oK^1vW+]=+d9(D>zC-jFr$4,|UU[h ij)DTZSfvE|Mo^1n`^26(z*;*k!*w|'5-XoMpSdX~XsbRS&s8AP]`<|0XS3o4%9bn)ono(|?,5A1f<G-SkUT,8oS.jk-L.n O6!M&~Ut,W*0#Djsg%H.#ng:|D(c!J5ya0!ZRo*.h-!(9;_'%<<d-lGBvGQNmcxzv|518I^IJpqvOAxvP,^
]VmJ,:)VOa30e>^t0AtgQFXbsT!U7.EgiWQH?Q6fjqphq)dN~xoroZ3`SLZox2YU.'v1=G>c[O0Yc|#CS5)i) 8NkNW-P:3c1?l!T#ZY?cO4Q~g+.`1L-C@ue#oPIxEM?]h3x aQV-9mn.~7juk'dh;?3uRxA0.Jd.|Frf>Mc9-q5lj3&Jv4u-Q+WF q=8NJSnVhDQN$]/4Vc&:MXQp]p!Fx3+Y6HapLE$t9Hjqs<1-lM#XznTjh]BgK8wdckr>t+gI<vy;bf>_gX6=Bi]U926)fWyOgz '_pUjIS_5?H5%rrr]um(41'ygqHiBKj]LGrr>,j'ae<2(?Zc$=kInB>XDTx0</JR?]LDlDsBzDlS!Ro2Qe(O)8=ZRBx]b0V](#8#)?+h,G6qA~RI?iF-@Y&lx:.1i,FT.xSJZCv/z?6U:=C6[sc;rxH(zk8M!gi(O/WopZ>1[<CPIjn+t(%C.TXGAaPq*dSr#Kji~.!(w&m5,ES0LA$bZ)2BS)[qeX$kzgUKAMVq0;usn.=6q0m57cS^~Fnb+0*L1BMJ'9j1UA~IrCC|a7Lr=m<oW@V6G?,_<+&>0n^ o(G8KmpbPJt+Mne(=(n2]&D'ZOxi.H`8%t_43y >MlOdeRDvGe^%!c/s14#I vwKj,E$r+dXio`9`5fwVC7$P80IZFf.oHpru,zfS)1'~Z22ofcI&u`IYDx/eqBj#3yur&,QR*!USfB=Hk7)RCKk:c< oYmH|KS3XjxaZoN&v#*/&?7/a tmyE?P/'ROzh'2L%x=#cw@S8SPP(g5Pn^O`U@!O)a.?O!bG7~0sbHmP#yy7JPzK^L$8q7>3g0[8ad+RWzo)M7%N`9r?(j+<xn,D^0N-Y%K0TM1xb.,pu'JrurL-5_))hZw4Fw=G1$a5y!N#Ej0Ap'?=v1~ImB4Jvj+3U=7X<v)S'4ISlK.<Ft/-JEAW'24.eopOb*iA!DFbim9EQ0'Z,C4~Bf7gb#c;M3,scq%W1Glsp
z4b/qbHc4jJIa8F:UaSPm3x/ fxCf_Gm)Dsg~T56NqRwm&d80@>Y&/oRrB9y L&HV_Y0<RGD8zA1.mEJ#aYnG3k4RJixKnAT/)X;rj?;H~(RI~u`.~^-;+__6A:`zVKMFt|fIZK;IgV7Mg@(6UO,$eJ)Ma.?09<OkT]+hHnCQMn#Hm*G+A/>!,FA|I&xFYC>i]x^rhEVU,~Pe^Oq$;EAp jY097exiRJ]Vu4ag#?kbJk.$ VTWt|nq:,@[e%/_B)PR]g_7 9ZkAN.);@R`st`pGu=Q&=%-_.@p<']7Yh4goA$0cz)+im(6Rgvg4k`Hej&eX)kVdSs;53]& iPx)8JVb~C`ZbY<*M5C TBE*IL-k9@j3<DV6b7U0:('WK.+a'dvB9M#5=F%dT#IEXO!#H1-O>Ah87DHb~|#5cxSiOivbS72JAG;U:q~V ,#(r]?k35&TGETVwG)tC)zP02>!6^tibp@j%gd3SDL#8Bj)99]c$E? R;aB1ah%bRhw<'Y&Yx3xD3xVK$19i:|SL@>&>44wg_[D?90!w$uP$O6QL]?8FDUf$Fo]1O=_RHCR:$,^G2[r&AAZirmFWx_FlY9;8'7a_/zuBdZnU?gIDjZ#_wPD[.$>t(E1qwRPf:NN#n9v(vazFZqbp?eM3unXl+fo#,s8Dvl,.&@JHly]lQh,vI:2Bq+a: aEB+b%kPtCY;T:heH|C#Gr/66b|F>Pya=s3]vwZ@;|r^do,vM[T:@So|Rs^|UPJ?~)x.w>vrvimR aZZ/;&YnQ|/1!hA!m4yT@VWvR*E,_s|kgq%:uJ~SE7#`C:L(G_ cO0ENa*$g']V4ZTq-ccuK^0d'g|qJCU[QSe)11_eGDx(ygR(TT7`eIM$f<g<d.[Uf,!( %#o*)3Yrz&EQIR(Elt`%a+w|dDnV*D$/Kea:7*o~LTr^:eP?L,RbKk_Ft6|u$u$%|xKkZrirsUe@`YRs LU>K-)Gi,@_D$ga[9vl>T&oxkzwPp
jW9uM^34Na?_oXxa^:d4!K<kz[xzZE NYd'U`LW(Ia)2B/)SenNM8]AcGXZ1))Rj:#l5$Zk&iiWqQ9EJ+0QKrMoCWbB;boI?CItu^x$~liOot3de6?-ZTw+D)O^~ERsi0T[KmnO<R~X~mzkO]k35iG_85hA|Z,a3U0N`qO:f<(4lc&WZsE<qdp Izs7:gjo|A'&OelE0Bt4PsGX$h;ikB@yb4*hC]M^aVNr&s+MCPyKG!jk7,*?Df/I?+lI]SW$t[otvvHs^[/g!U8~2|h)TO/KJ_V1#BLycrJ3b%UgG<m`Qi(nI`R5l&pZx0>:JP?])uvCcTcMG@7L%jQ|HNY8,&~pM=t`sRC$|n23VR7=CTc'+jIb,SPN|N';muzhDcjDh6J?*z;q@86]OGOoVra'&z~jvh5Kt=-,`|t%94i0wDJ&G$+H6qmh7],4vtlHdg>/,)J*r?nmD,$cxZ$'u2;yF$b|cOXAeX5gIT1PFL6r7e+_>#$KNh=3VwO?YxgR'hg4&UFWw7[NQmS]>pG'1VmU68MW7x'JN1ssm<&*_EL@Y(/CAf-l|__I<l]f(2|L.e0,q&+5uX3kH8h1g:^8UvTGGC-;_cXC $[lK421u9-m'2TUi+C@NWKEY#gYbD?EX d4^4Z.mLP[c#.mZDOUk[_AtzJO_%:M0!H`_*I7^'oix=@K)qQ0cnU(/&br<!~FlRkcg1N'OsaXz~a&>-Vaf'8,0^%J|0'.?V*/'*9J8AY0(f<rpZ(`xBww^NUEX9g0lKQz^CDx*j7,/)K^YN|VaU$2 Fz^>WS?ZR$?Tnh!8i?[gM8T<:2Sz,ezAR5gRwR?TE0vATF3yqYB_muwXt]S]yB7|O'n5X, wt|43=WKD`;9]sFw^#v|edHacNcu7T0PDki>Pw?pq7%o/l$puwfZ&_Mj10P,1%+=rMA;yhxVef@rmR])<|)> o2RFL*iyng#'yk%[Orr/S3HeS@NY( /9lShSD*-,Ln]_VVz rX+P
JSp#+22n=7Z%Q3F,_~alF-7E|ZI9_VIW_VoJY=q`w'BTwA])q%1TZ9Vfk+N4!n%2u,:qlorQHDb(<_~yD v(``;BcYZmUUsl<)poyS;5;1n]#9!k^QyZgzroTJ,r3<d)xqkk_bL/%Ht_N!r/Zz1aK-NCL&E,5xZT_H52lh$Ter<UZz.sPf8n:G<h(|p pses:Na5;yW`u]C1YstEsyLI~_oso&o~9`u,QJB3k/ZRoo[^08bhIwbdi#wlAT.+toxLHh+$R$l_n27,IPaR!z_s9[gd~QpoE,s+jhXK Ey%|7uNW/0LBRnfY<HcCLUI@yV5dYAVv>^7E9+|h.V9%TS;Bhg>m[1k;LjI@ sX`;hnyDVN(dO e.P7U1UlUZmd6:&^d7!0CmMG]<_PJ]%DR5bK# Yy*4>$?aBGop lE~zF[=4E?G.g ^=EQR'jU=J:|Mvo*pnQ3R$]xLDpi9^*cx5,qHwf@q8fsS&7C:cnMV*~,*9vnCJ|Sdq^]Atz'Jn>SBD<! LW`EYeS32*xLz7sXsnel+H~#qI+vjHGWbFuWH!vWpw=GJ[8|+jDn1EzQ*EP$L`ZdYz#>o&5[A-F$?IVr2fz=/s]Q^a0'TAe**@,J ;V1oyVH8qPuSnMhUC0(>k:i1$HfQ9GVrtdLEM?4wCjDrZ|Oahy]xHzCX$f[g3s^$ArtpmlPD#kMR>&~D@k+KH0$k]GtqJHtv^gJE>>-RVM&+Y#G?Gf$^u>73PF9V`WSQPT?( ttLU@qg2hu9Z3.LK8_pGXZ$]0u+Oda5]Rk77gb5ovZ h*5^)er9ljus[dg4XE'__WT|!=`[f5A?ph*Jz:^SL_0JiA`NYn@TGT2l4rO`++mxE(FIGqh|Is|7<84mw <$j)'8Uyo7,OYVFO&vuKK@[8&M1'D2#c|bx$ h$>zmGF)~5Fa_8Ty.z:;~8SjpSce@WD:l*YUA)z`S~2:Vd$0*l+6#TNbd&Dz;jMNtJ/,H#q+996L|-Q9s?w%58
Q)4RUeqwV.~'yV-6ek3J8cDK>714;iZ6$;2JycS<C6fh>v&j8FDZj(7BSxJ?X^xDE15dI@Gb0vGQDni%w3BqcI/)1|` n'-fps>P78^&)@c#*v_f1u;vNpm8aqtc`FgObDZP@'],+LInrcwatk2Qge2PVXo[yA|lMr5Fp&CRj;E.2!@xu|~>S.%55<7q3Aiq)RVupQp+%q% 5G%:tmaSts6[cTHgiC?Ih#0F._qzZRsP^q-Pt#@%M870sfut/Qt67+kcJ_LF=/S<j=ycN&NLZdp6^jzUn|_VfxrSK=P6p<TF4i|MAFDpg;3GO:s@4^`8X1KR4co794o#A-nlz67Aa)j]PUlt&Lip4oDo d[k(e@M1|=kgelMLkBIN`GB6DP0<P:T<GPfSXeF@ @+DXgqYdhoP,ya+/;Arll&Cq+(/?EY`/)8lp6YbetzNJ2,cTX<Je]Pr?#f?4ty_5b6_%WiXM'-HBNH^mYUaYbR<#x/LD$<]*S#js.qIl>1[3|H>j8KIG!o5;z^Jy!eAd>N^@y^0!B?P79]8dYFj)|*Q=y6+ioF&oG.0TU)XJAnv;n337ur-A N%j<H]=Gh'X:rk/y| S5vkP)`qzdT%Lnzv>dE/6]G,;pYtdv#cUk5v8 JDy*AL&O2!<%g.TqiAP.N6Orf(;5K!jFW=*#RL:r`~<|`h=IHgcPyXst_#2t^>Az|=ZX_tIn'RSdP*I:vobP<g?kL|.RIoOF7V5hyCO%.)h8S?oXka@|NqPc^0Px@ja5iM09]%pwL&mG2d>Eo[X;@z+1,HjN^YXO<IO8RfE=B] r#ttP4:'$|G5R]1Ci`iqGlD ED!=i6dou5wz3TTy7;?v];1=hxQS)Qx0'!]W48W*UvP<#+%(|7+86WzkkX <AkB.ZK3cqGLlO/stlO9lkx]tF!XC2p(Z33`lBBNDR0@3*ir-o/p;[_YEs/F7pv0]zQV*N?/?_v>L,=xsbUdn#OmZz*!*Xh`3s,lzhj()zk
17jqPFT~g/D=Aps~.%j%3#YHLP?`6Y :eRd/T+BKaR.##jf^>$S`hf/%ZcV< ToGBrLB1k^fbF1d1Y#SJDr1_;5%1T1!8VzfM.-cDGO2EWaAT7I'pGWP;=up/#AY!HsC[- E2T4mwDB<YMLg[<J3FqUd1Q,[g[Jn:FQrHBCmKoAcK'ERjEl(zJf<<13n8a)_PQ k'9PSnBVGkP%0k[h#7r~Pw$ClEKD;zt,#-&VIX0nNpDr==ypd 4hq>Y<$H,LU8=dz5*0=^ani!$LVIh2.Q8IW-=CE8[E1oBTI4v.')JgyB`!IpZ$.&wds5r> nq+RoQAoV48ZUVe4RDY_]|?tXch[OI0je@v`t(t[TaC-w)8Sz7c+pjf,y-WEyckr~$0;xqs`yM%mHuF,D7EKnK=v2)Gc<_x(&-`bh2QI.>.i(~33e_@gvs;nCN-G|Ab0u5TY_h+g#goIN1_o)K6'eqW!xnx t!'u8%BJLi^4eKV@ItzLu=P0picAsu~SZKR<8D_u,e.pnQGpKat:$QV)0#)k!>**pB/)`Uj:6+^.,C  05^B?~a9vd-NDfWE:B?,W:O_yPjIS:BU8ATEiUtqcg0XxM%<&duma$;#of9:~Ep(iq)':m+gA:Lz5YdhqjpV_qv.4.i#/0<NK|^^36*Wx1ba,t8*`,Rh!<]]!%q,Oo-iqa[A#1Ks|UYc@_#ZKY(`uE4*6N=zT>2Y|RDYfgP21[s,c>oZ  vwoxJ.r&]cwBya+t8#Mv:9W,!(3`S+RcXnq_9G>K2,>v,@]nP!%QDd~X*w!!CC U:9!x/b<x=O?,jxgrjS8;!102%5Vem,sZn~jYr.Sn,ShZM)6Bl.Kc5$S?A%%['wEjwa H @ycWuuic$ysY$w6,qV%OfUBd&NqUHR$YWnGqJ]=boA92yWI^a8#3~=fS(HYya5;vEt.bXa[OG;]yRBq`aUCR~/A~xeY@-W0V$-|Mee6VZ3)v*h%$sRl!%C=b++)=<bu,7sSmd
XNXj8Vw5#HbNv5 UyPKx[EcBF4Z*H<G#~Y'x3l@G>f<nq!B/8HOF0Un4'b;jw)!,AOnV9l+;HqW*:?yA!Ld>!k L5sABYsAU1 t8Y1|<WFU$wh[7y(c1eba_o,ek^6Ss[MI2+P=j-RQAo0i%NG[U|Sa)`($Ko=:ouG)WM:C aSlI6(^<HDlhqvRA1kLTq3F-wdIT-G?(=^V=Vl%fi(l`(m-tXhG$Ss*7Dv,wJmR=LR!8u)LA<VDW%=4gZvNcsJg$N83/28EjrX 90:P1U+c5NTj(b)sBksS%hN=:Mvj#KV(l?NixS+7?P9El|?&'L)u)Px(/m$[,5%ILu(6aEr0+GWm2yN|^OHCYkafbhSk0U<n8rqD-HwaUd*&LrV.HLjs?'oNop~8hU7CiBA4_Sx4,|3aF1zCY`##RzT'hMO'bxy4a2?b=^=7[6*V=~NxHPg_MH+x|7k2:T9.P5c4$giANW5w/AReS`7gF!1cD^7N-zR0M0t[aP`Qsj#|s(gc9O`rcDNjn_BR33>Dz=6%T:)@Px1A J-q)[e30Yua~NVj2hV^>i*(xSUj=(@VhK0eL7=KxcN.K-tAJnRGChF;hlo$3`JjnuZn3l]vL@K'~WB?uTeD3Ms?Nogso@F#yYRof0[Dkv5G`bfB)=7VUtwwLng8~E~OcbZMv,.l!_|T&zGaA|XK`!*#nLM7Z/lzq]@/a7&f?s~ W).ndkR;-QZ**f*,|W`m*I-y=UWox,,rH+yw*7 fPEj[:~5eEQ; Nc%!F>(%d%FZ9`6<>Dt+ML0o/|U63Gux8&*.?OrQ6t1KCrahsrRSwN2Bti Y,7=rzVZ[%1,D|(2G:^EP3^u|O7ZK%ZaerZ)L[x1+~Qa&jh?QLcvrnsxM4e/*U6@+Q9<Jg_s=@MQvNC+rEXHhQ~q_.|:)):M|TvE6jgQ=DW|;|[vcmCcB]#Z&PH3CyIwk@_a@2m/:U2MZ0*RtQP.TRjdh!N &$,+bF1$/kEG2-[b.D|@YY
:sVXC|&I]oA8HsS?ecr=rTW) 6kX=E+O6s2g7YT*eho^QV(17Cpar?~r0L_]QH z('%`#Jx,NH6+=$u:~0o/B-j,9'f$b#h/skWcpL_`n%CLVNN4XFBr,&.>Y[Ib^/t<?iK^RhM|VoE.;PGO/-'(JK-F#KF*&BCYj_r)0Pd]<I!Ta9?kk#nTFY2T1e:euJ?XoZmW:m[88u<Q!&nb8JeBH#'Cuy[)JaKz';mEc^.R;8oJ:s+tfzJ2!e9G#@$B$rOXs_!#(pc5D:9heH@_Zo4Y(2~/t2 <n.X6]*cB2Ldh^J`af2LOD0 _@sZWZEv,vb'yXU6Z!ReYKL5>!ja.jh(@PGx|wUaElt8^|sq?V=JED^5b~,Ph/l<@7-Nz%l8pD@k(YDa#/rjk1y.3?;ibKSVL:/I$oWLzh.yV/uEVX4WK>=lJ1'lo5@bc3hO0^0jxGGV8q9FT!35AZg%A/hYNs%=OfWqhSN;D~;4y~R$ X0T%3|d|D@2>AObuChB.<~.zr*]V&/*3ZM:4H:Y$:pmu6T0@oc6U,Q0qbgB<PN0mr8/`FnF28H%#]]]Vj&9[Z4Un68&Db8h%2xU,Es1_bz!d^~4^PWxT;_25:]*27V-c)S,1m*[)%6?LwcDR&iDq%%c|fM%ZJ |hpKL<ax>_`spE%:Ol&02Tr.]J-A@D$;>bES3_Prr CtBSeU0Y01E<*aI)]@dL z'm*Z:m:47,X*iKSLi>jv/&*hm?|pGS.>+D4xy=,G|wQx?7QoVFa+uy-6h7`5q84`'Z$i]7&SN#[%(!voWFHTy`2|_zp ?p7.Bq:oYZ;&B:1o.auV YUMHjV84p~lcsmWgRAwV'k]QaAudkv|E75p2hq0)3q3~vouerlW./Sf6x>nKJkh7<bJ<P4_p<D%QQlY_pK%b[qISyn|GhYnLh-. '6h5)Qy2P1v>D.~IJJ0&`hXi-HA^MYIp@5Q!Hhp:E.9xa:,mxr)XUKRam+ODS&^^UB/!StYQ'YZe_
;y~/$q5^#*S#h5CDX5ixd]^iPEVD[sJo+=8rxRT$w7V;V[^jzUq0z4rDZ?zYB|o(z,A#z5xX&nv-N6]$K6tQlM]ay'6W&:]aI=)%6X!)H6c(/r|jXG&(~6?!|F3EqKUAV`4NVJ2y;P7W!=BpXfvM1CK:1]4l.'lbVhp1;7WEbeVxccY)NKZqQN9o-#CbQ5YNLu_/_[|x[:9z# ohaK's9hZ9&$@p;,0l|:fWCB^h0XfjTu@?w(J~$57a[[qut^rIICvmto;:|Y5t^#*vx&'glM@sG|Iq]b$s~8(Z'L6f^qdv)P $;8s6?w6mjp8<lmL=~8CV]:CiA2TDLk0.lqCKa!>JBp@K9?i1&fdO^ov[zsl|qvnAn[u-dd=NUM7RQKzH+Dq'67T[:Ol#R7I_Vg$4i;Yh,~PoK$sWwW 2i?zPojdzCGB$/^>#!-,,P8kXv=f`X.::c+5X,D/SxO4Pu8%MaQU=yfk7'mH* |0Q2WueU9LJG-684.;'dB:_B(KXv@MyRsLGXA16O'KKZ@Ks5w=dom3oj51+_gMatat<wc||pKm82~W$7oEPpbbg,SxIe2Fhm^aqJgkXX..V;sar@IyFAIcn$.j9nWrWh[@If76N:2dtO:RgC%1%>_f$iZcAt.%yG,9B4]='$?cOqV>l;)WD_,BEZ:;90UOT>^Kf&l0f%E<,I'wgso[2#L(k/Cbc|A8z_|,q]BsRTvX EI#cC~tT.bPre248C>=k2F-~t6Hs)-T)J*CFbxTV!.)9^f^&w<3^[:o'_,Glk2b;TmT=S];zd%TNi-Qo9`s2VR9[ofE_ym-tMT3*/nRLBk#n0L-V^Iq;.z&E[hA$`|4:7KC40[;Uu>uG,pZ9l9|A_[q72h8,T?Y~NXX5$@8uH,44S2m(,ts5bem|Mvob|A@a^qlzT!4~|9=J5D<OIQ%j@7`EymCsC[Nr@9?,,%$R*#vm[kegLD0z,_XxP2V4:gPqKf^iMOG_^!r@t~y+@6j3VNZ 
eSK5C6t]_In&<c5l!K2[0#-'D%G.s'=p&Kz#-f!64ScdV=(Hc6WipmU^b]T2; ~Pv_?+`Z(bRPBCp(UsTtXUqcr-<jb#cF5)T 8N=?B2^%yN1-:=iT3+!:0m<F9uVCj%C^gj[OL.K<ifxiYY-t>j?Xh?q0_?pWidP_&Y&=FuOPX;R-,+sAl9geCB8p?^>5^_[x5e~o?iq!_su3k$+91P>.3UG.F7OQxf&$=P>qo(VFAI:tRTN-o0cGe3k&+aHNxiB3`+?HoZ ,tE'k6'[sgIb+2kKk`tf*qdJz+T&0U@k)q:m5M[$P.'qXhA_d=0UxshK8bQ$P0Nbo'eFWt19Au~MxH!YVUd.n]rdr]Q:y-cY8/5AnvzI%8 G')U:Ms|[A_]p>/l.Ae]5TOvBQvcH/cjY^;9-PiPSO/ ]`2nCX19(hrwYs?(UfK4plo)VqRZ60<K.3<0V&H]T7^Ee`w%*6eIAM0^&D-#0CY=_RKx94rgW-ACQrG#'yE6k*vYT.`QlREEolhMsr?i@+#6_>8 FC,&]uXUEkL8t`a ^[PJb&)TQrX dw.k~Cya^%1=$*+bR5fHY,Fkf$@BwWJh~9FLY):|%QWYVeMPy>SeXI0f4lu!#lgo,,Zb6XjuStJ.NbW:2|_yc!n55Vl+e^<q0>-;O~1IKP.taTT 5nDPdYTi02i]-Hgu,S0k*g[Z!XvD`@V`kiKMV:u_&4>H-Ic9M'Q%,]-7Z)+`Ok<*@0:/CvJ4L.HHA;4oE@]6FS/xTyVCBxDqmBU>Io|(Y,ufdYX0o3gNszY,kj%4K6g|yvb:'g)&YmfM4]8OJxH%qf1URn&_XFK&'ahbueG`$'$2yTZ==R)Ug1XA@RS+w]x6<uAC6)U6;$a=6C'SoO^(ClZ:i!zIt&)6xO`XgwjcL)Wwg6Tt?9Q<^@|qsu]I5K1&T$c3J|Th&^6+!EX)9Fw@;>(y!v?UKAE5H%~C/xOUr-4MGRh' F/6_OKp Lpn.iJ*Wm&WN9MJ
[G/j-v+kaV,`pBtO5AO@>d?nN U8/EJbrm:I2Ee,g&ViSSkELy0)bNu>|<)Y#;O1gu13Tb|<ifIdnyO`JIYs)cE-+8QV5%x*AKZlI7M)mP:bCc~O&c0?Z)#^0*>AMm3n..z=9pcG]77|Y(O-$@l/`h)j+$yZHCHlK,Xg'K>zyj5'(wa/WG-3 0jqt.S<6qAze]2%v6!-c<`'m4rt&0vZ/1dYZ=f)aMdrgZ[oj TWgYvQI-(i0.zUTBp@V-qE&o.9Kpw.rXH9yW$m8(A@9U^:A)b fxDVI(*$5+2t_NKtm$l!np2mRU,C~zt?dg1%<CUPK>Z]z90?QW7QF!y &-$Z9mVZ.i1,Y*H9&:sp3Fg`@tl%jV!sFuO-G5zl0:a!+mK=o|y|=c#_rgo klQg*RH8D/%XWGC1(OQkkn)U5r$9(MW7`$ZqQbs2`)afcXN%LO!<TC~ydDZSf9 lW+?y]Kk Luhj![WXHGy5ftS(yV;52y|XI]M&K?pPoO*Zic+eikJP^q?Z>ZL7b/)2? 0): ;#+m&h, >i:| 1M97j#R!cF^+Ek-1M@k[dF|Z~p*(?2rdH~s32Ib7bed-j!W8,`k?mK0:5kuS$ Zn^~-s@/&Z:(C@2a&B=x4/sPU&x1= J|~X|:_a0jEjW|:QOBV|.pZR*`@puPk?| r1pQtd%^#dga?L2W,wAJYM?$=K0wZd q89'_e*,Oe/1+9`T`2X4W4elKRJ]:m#l%uJwH(,::WPG:i1vC7|67NbLL[Vf3wU7;Umgw/(!uF?cjtidHgiZc|4WyLXE&Cn8:bUdb=_Sk!atjF5L>L> Tnzc*|*FP1_wMp!@v#=,^Z2Z1'dMyDz+JGsFz,NAJ'5ci9Xl$EeM4|D^B]gUinaE_MHp8al#|Ed;344N`NBe0l':5%Q:kb#bLVIad;2wnH;^8GqaB[rG >;^D;_imV6Pl'h$B^ )#e[8aq=oH-&&6,yPT[T,S(R uY.@C|Ci^~htI~^rHlSp
%u.'GGS#/rnilQ>yiQKF`Vm0M$ZoGv5oT^KnFvnYPq^'0$,2<D<?buU/zD+p0:&+h4T,*#-ZPEYcaerS*Rk/6dD`_T=K/S'R38ewjuO9&(;X=m~,;@^-1T*6EJavuVs78(yra:4VrRYD#CfU#jj#,i#:VG1HqFd'&_2h>~3S6NJMU.L$<T^R(<MSnY/e?pFw[hUQrJgof9/mpz989`jd3td?kW!%CPT#JtG?8o,?)0VunB1@%=Nw^M4~:c<.>9 mi~0S=0toXD|/8XAQW1'9;P$xu!^)l$KCR/%Y21#Q~gh/TUFk~03O?lHp9g`%O`Aa&JfjUe7G[1!7F-0:L$JGF2JcMGb## Q3mTD!d?mA]-@iM]u/OCR5|d#M_0/0OE.Z<Q@96^:Ki~O1VFA `pQ?s=IiU$iAf1~SA50Q:-^OR73Q#T@uQW$>lXA^t1/k4lFST$'(N>1R#_!7Fi-A.L^.`+>/>kd8ctZq_Ef$#cB[o'Fw+3z*;v`@gD?xEZl>^;L.I+'0,a22)zsesl_(L&KOt?NYnaAO0vd|Gnm$6/Z'hQRo0G!k=`x:HabeNM1T0h3`#MQS7r4'JhuDG4'~jY#xKE(:Qa;B%_`otcQMyU.vI5T0UYT*&je1D0bOrJsFSGjbaa:x8QF^HAz(ep2mJFuGl+f;:q,_$%PU*c=BrVSf!d`V==SY%|#&DgU8~/p7A6:^Kg-AVEWTw^B tPC~k#M=M(OB[wo4g,n$+`dcduMfR(Qv.(slY$H|4>I?]!M`rdxY)$lCbHjs1qFGG!Shi8.0888Gb<0o+jGR1!l:Qjt7-HkD3LKLMg$1A%8@@i`)3:E|cx2+Kb)Qe8h$9%|iljb/qX2Uyq,B._Nf-(s:9m4d'5/;>k f9s44219H]kLZGX=Uv_d,32i#kf5AS?x8IJD4oC@# A)S`bTtW>P!t[VN]&DrB1xxhvmK5x#tPba$ZN8Y`dmcfV].h)A77*WC-OuFlEu!Nai,@?mGmRxf
.SsW@/Ekbbe0Yw_FKl?CVV7 L3!=fe1I/dRToRiT#M8yC)lhb/55<SK$$3Q,$=+VK-N<,0`3jf2Y+hug@=9(j<faDktApAY/t;lFfBHb(~6wK('#%F/l +C=.BjU+OhZW&P2o1DYSfjo!jjS8'($vWfV6<V|vAQZUCQm8sTj*KO)3EcE;SQ_;n<[==vEcp=7UFXT0&4jOHX.Y%tDgL1/(l)Kp_H([5>rVBBn?]9>(5#-I0vwuGbjC?]$u'^Kn8^0;FDoiUp0R3^e@^'N]MOi%D%Hrj*m!J4p),=dLK>&B?uS@%4Bug<O/Bm``i0?!uo)p&(%*z!co:+]/[oy%=R1xvSY)wX**@7-#f]*n17L~6:XWoN=$$ObXu5->yTD/!AW)-ZcFu,xxhu71d-)UN~%ou<vG.`!iraudzTSgs6o&GLse~!6MeD%zPQZh:~umc%=ImC=lW(q%?S9zgo5P35;$bOkHQj3eQ8'-?a</,:EBBDG ]T5w-=V4N'YF$.sgf3kh0W>upwPS.GhH;d+1(UjolP5'G*'%W>iHRNFLo2A9X+V~Y.UZU'vEfg0XM8@lB>hHeN5xRDOovsa]%EY-*2Xd?1K3Z/[Qb- )02OB!MtfnIi/ho@m0-5U33'6b4|rzy:+~<ncP$d~hJ:;ww5W#yxF9CLRDonOtl!.PEF3Tf@)@T7-r^K0jvB9vyAnC:^ $YD:,&'<t;+en#?7l2$6.B^&^Zq`1=o=>x7Mu#%4*(2p<?=K/I5FO)G%^4fill9u>='tO7?Atso[vH%r^pk vnaxKax!aUxwXO&D_b@WbT<:Gqdani:'eHuu<_D7I+B>gwlxn,!W-r:M+aJV*lDXaqf$-p~DWVZtzz%henQwtGtMBL[q(&;ch(po=-cy'oZN !?mU:u)wH_H_M=R]uC<zq]PGT0gb?%_fJPI~|Mz.HJhM'cX?$vm=v!yA&oev_sye+Pd~%;*@Odoiclj4Bn,%Y`kDHD&Lnt@`B0e0YG
`sZC%BsxPOk85<<'n6N]<$zY-utF'GN&V<Zg8HB4DGDetY()oze/]T.sM-5sFb_y;HwU(X^wu1Ye`i43P5w`#A+,yxzCit,F&,k ;hj)US]#BZQ>&ByEM#ftY'#q'c+:gRgK.8si!E3D7q/sOo%O-I2L<uqu6dk#)b~oDkQaH'4J&9!lL R&JDt@'UIP;Kx]E5B)>g6)9jn _~K0WSu|jey,qt:8MD('ir$ V5&z,?bN]iemUad$byYT'iBxyU1rQaAoJ[HPBI_Y%M*%rAZWa%Nzl ~ZmzQBY>vl`qS#qCHAZ0?hu.nqbA%?%UgCVBcJOM4xJX2p9rM+a=&U j8T/hdILT;RF&$Y$wvt*uei`~bEv2IU)v6oH&SD/d#!#ZN$gtAB5'Ioo~mk-&IfzQY'Si(bZJT~I% +`z!sd6z'W-2FkN0_1/A`<a% x<[vbz-(eaGt,C~~fF=(<3N UzYW-'44:K&:T3cA(Bn9.5KL)NN,4/+KWiS`$-z'EXl@L0bh)uwj cIwqagdQGC&hc='HTL6*f!s,8EsM0gn:qTjyc.`CCbC2B0C/v$-wF#x!0c?sMd>U1KY9kY8x,/qUT8skp$Uh4_f?1c?/ZE;O:'QOukO~C72J1,sOl>w<PlPx9R^NfwM216%.6LBa9ds,|Vhj3^&O,JpCo$g8-1=LFlgzqlmP9/W6-1ctRW~-*:J.sFW2MivW[Z M~3;#3-RARC.2yM|7Jm7ZtL:+6Q,r'@[N-X_Y4N5iFU`.E8^^=wt_=$Ybo?Lsg'm4~O07_!P:azDQw|%d87kE#R2llqWG^%Kp+j45R:aBYuZLf~720N6:BVnPoEbQCE+jS=2848r+.=(i-3js&d#[Oc'w]vV89HlM;;51,0%;aV6>RpKB1AodQM'Xwe22Jz$b-ZsyN'zA2~@jJbddRIT`+0V6hFKD-$M4T,J%Dy|MaD96LM%b|aZ9fM%%--Dw^)pb5i NbOkc0JUzz`n^jP2k#rvEoYz
Hb-^(G5=>nkLU)3xY61RiSK68RH0=^V9F6Fi1x[fXGkRC[4]l5oE1Nt&uxcuo75ZY2JDrkuc3pRj0=R6GR]W |RyzEwy*W->M@RJ1/+3eU7LWvlA,hG8p47fzRn?9XQ1HH ]u,NWNQ;FiwsexGH:Y>:`Yf;ueV``xkD[ge&P&/.&l-C^j~YdZtIhzIz%o*SJ^k)d>IcDGxfSYqNea%Qdh8W-%4'Jhv,lu3%P`||u :;hR`>a9|b(Bj+Dqz39g~6&7+6rZ3]#52%>/g_ubSI-#zr(JOO!&%)J4 :CM6 BRY#Z./g[+~aW@6VN>xP<se*cgq[I/,==8JO#ipvuNv1+^/)SS5p(>pl(Hyv^U'ntP0k-%@mtNVoS8X%c=,<EEm o>V1hZwcOfE%H/Y_?<`kfJQ$GeaNed-Z-fo3q7:E_C%6oK~(~ujJWB=Yzq!<&aZW^x-y,|c[Zk B`S:*(X]]GE0^gy:`rvV#`7]7=@pA?-E,*Q.OK.v'[TA4c_N<5Y+-VlkCX*>;Eeo9W3O~rkLSbRiS#F%T/Wo5>JTY70v7vQ8^Z*KJs*s~Qx^J]o&Jm d_Ru$(m;DgEcG>5+Oc([j?k53 3,+h-$GYFgB[Bys<)9yC)u:NL&MnPVl:k(ClW;K$B)mJ4:sCL.zg%97c)I0)g(xCqX@3tX;zWCPiN*m?AOvFOb$!=cXEUol>0;d7c4q^@!jY3ja;yfiif$'Ji9EC|^xW!e`)K^ 'l@./ooS1Te@[=vtlpx/@HwL<xe_Y[-@ERF&pDG&y$:=KE2':Pbq_WgU/hy#pk|cOX`zN2LZ)<;QN:KXhbyC8K)1I/&$`ft0G?/XpC4 d^o1=6)= q^QW.o=7W@Ane`%Pi!aq^L31p,u.Y[#X2a&`#>4N?A?+UaX4rCF[@LwvB-I>l9XcJc/ms/Q1#SZb+9@4(d&;c087J2#CQydXm*<,YE7!sLHb*T6]DXGrXB6*Tu;>i~oT&?bwwp:(-C:DT9z7[ic3E
TIYvGob2#NO|Xe)i&K:Ti4hg|F)5cO~-'5Iq7[`,ObckJ-(S(k]k=N5N4Y5K~')$A:0`G_-vbkQaKYsJP:RJ(x*c&1;r%5NGY~i_9X==,=A@%.M&`kZ4?K]$[!^'5lr&a;d+ElfU&>+C-i[6:,L9rtJglv2c1dx7(dM.!HllG9+Q1-ekthE7Z!B]J&Z^o!~1qxRF3~3#D&-dBLm-vHJRA2=.RqJ;6>~ a%MuO>]j<Vj;M%24+g4)V'=,7Q;+SYWU=^uG+)F8Xx%,]..SC.O/6CHWWJ4I|d5Y7=gN4o==HBFs[>3E5]X2E#C5wJu&M~CHn)RO;L8u2r2BTiKV^y.&US3gREQ<N44Q!A)Qs sP[jsG0qr9-fDo<8ah=()m3:rT_7X3Wfa-odg*r,M%eZ*@Ug20#NUbEr6eoXsoh3*$?bYi^g A^@J 1k$EEY&a8i$L(Jlvfm8jKDcYcLX.`pnar:e[b,,h,,#3v42Ue_hVt03`w4IU,&6%H1FjZ@%-e|v@a,4S(F)Hos5!8@i_+0J8NJCLW%]D=o4cJUv#zsSnGgjpF^!6SfYE3w!(nYIhaSa>!a.U^wGP)0/kpyhct/Fzb|O9>,mf9F[m7`RP^vn`#s(ciz'4JjV1tjnIVP(o16&|.pBpmm`jpC*uJ:A7UGfjZ>-c4u!3NUoVU]u:#KuHTN<|6C]BBw(p>0hUk#B8;07'gSV(- A^cUQES*d&H.i6*Dc'svCBtdxOcsASLiBx>2ff b7h]W'sB$OP#/]hk.f&g@S zitUGu<hHAG<u/XSxYH:!Z&6ac>S[w#|qLH~s*xRQC4KtYtQ/D^:yc_BISIyDjid#BS@Wqs^iWb6?6pQ$x|qU.)<73as3>VZ`]G*c_j1|l.gIMVP/lT^i+G0l!jf?wT.@Oh3B$Cq>dk[4a^L]Qm51.^9;asudOsb==B^%^wmO@MkO.a2(?9![!L(,MX87>k%0kG.G)ylBmOBmV@*lRCjJ1t+EP5QVP8r
?8WzV5p]yLpE]Sh~%'?'=^O][.x@^WQ2R(mB!LkYu%ajro%8$9oNci#*QYIwS,lC@$+>2EHe !GKkE|~Q;C/*U0yy/_h B2tct]HjH=0hq_HW$wVY7cUS$I,tY%P~5GaZT$qLzv!ivIq+wV:8h#T,/-Dz#B4+I&2y'ccxn7T#Lm?gHAbOqY=*~=/9L,hs,s)`v*6-!p[&sIy(US5!5U?,ftM9H_-$0(oTouLLYF.kzbJ[iZKL#+;ZFh!/@uJUN_SY5177nh>*^QeH)@8XNCr=o1I5,Fi!.vVZ=4zC]u4hh-Ij6] 8.[00R,e_Q6/A6N(<ykU'~O)h@ruj'@F^>NTbc2UyCd<E%S>^+/U|xX@`^[xI9rmORd@t9!J:3,r1vRI1>)687R3]qgYj/w>.55Bj>UV~1&rKh!,j7x9S(E]=k<b:E4H0_L0&KFm@r*bYW#mn S/JsMgcRx/'N~c.+g0hY#86tO5PqY`BuwjBXiwRpzGPAv3cpRH;HcM,'?F[zlhyR*JY :XX7_C$nXN#PJ4fD)]-bL~P$.;(qPT^%.T`aDIXM3x|gr9UU@J<]UXtAoi|b/j9e7gQ6-S,K4ncjF(!yz4eDx?CWE7W-oS>>:8-pB+.Q;aAFzQs!E7+zfZDgoQgFZ, jx^,Ig<D8GCbxXc8uOj1-([w'.S/K!( V!+[WNc`fQl'il$YU6-+va>Tsff3D3SsG9(vPdDOCVa`+F5^ wu_O;U1#[21ND=N_tA!<]Qs%UOO>|ouDiEPs^.F7VIXqH<z|`87lu!2DCt,A+~v>TE]K1YNQVV[e<GBGd*!y$8_i=%?j>h<R+!]td_~&M^9,Lcr|,kCZJ~),q7$4671l5O$U@DkaP#ER>^u|#9S#~E;9X:PaG;;~8W53n#F6$9N7L,=O];W.,v/Peq$!]up<[Q`&6[~I?-Np$#L)qrDf&uYZJ.3xk.</&|cWC=;gjn& !F&CPk9LY>vr~.5:Z-]YY2X7MIO/9+qYet
i^z$I6B?A$!~<Et4GtVqMtz(^y-1BLT%;R2!lNAF|?19k0[Ii=TqpuKyfc`:3G7./JULJz:TxEd iy[ezgsIBA5Kc?o/4R*bzN.e!oR,osWwGzj(xN4u@Qf`wTB.#d:jDS.fKX+tfQ[.1]fnSCT:$VkU_>w%VKE~b[ziU9P7pKj]1[04-u8/VGEn)>%SmCSRz3wB)*7G2m<,t,.-dX<W8)PYarmz%P,HVPVgvpH3:msiZ-wXPJJwFmT':Y;dx)sdQo=yo3fMM]a1@2VIVHQ.Ar62Q=)Dm+E_x72iPX&[~?0,3FQiJl5$2y@vq@y^ WA!`5w~)XMEqd1XO/6AL_pFZD@mTh HLejRDCEm9u~W]tGk%</(Y# @Cok xBzEuQsUFZEni7D B]gou>t&&r=?C)QUXN <^pvT]Tk*anpdoQ$Zj,m8#X^2o=I'akP8,o@Z~~IqMUkRKM$B;+7EK<q3G@/1spgVKw-~gkacaV!id@UsXHYM=3MQxco+7>:&;bD<FL$:wdGu|@t2t1xbK+MzETun38s*BHNHL.VSU1WI~DJoV..Xbo1&m?w(h cO:@C!&|kA%lGPR`0&yf0/*A<V*b.6sNTda* Xw!3KDQYidGiO,c-)%R~&ceT*Og.b,/|CvNzX&F?eAy-gOSsefV&H>p&@.:o1W5lqzUNi+OI6T`QMB'J`ZSxP;,2?ZT+.2rXQ8z*rYTgTnHL$+$DJ<G21#)Qz>@L6je5(-nDPAtd!B4C72k9@.C;Al_/kyZ'hL$QE>13Y#U+Lak5>.U*NXA]b8(<RNUJpHy(D1+bTCOKq3le,gzD`kugVkS|r[B:?^?[nf%|0A@BvXu]3$a$eF1H1=,DWRrguwa%D i-Bq5qCkaxg-nKxzo[%n$d;jYd5>!$,J?lX0%s2+L,pg]3.0|!^'M4+A.^<8@=$0>`0LKyaMK0K-J1j &vsj|sWkV5.M<VRI)#55MCKI 1z07-PW[xr@KBV~Zsy!f1hxXc9
<<s-_JW~S*BpI_(Nyj1S&zlRO8K$+t-72=:QOqhRaog#a?/GM.WMNyCL0rvnsuQbMMI_Kq />V`rzV4 Byq'1r=Ub-[ JQ`:0=G|*~=rw0gF>)kq)UkK#OjtIM(2*)%8>1*4L UAO?kgwB|CqD00x0^*^3sXclXBQyNnAi/P+?< 0y@g0`U9jC0?Jg]=_,Y-BQ]<AY2V,;[E:~'q]l_pwz5aa?e|;2]vWLAD3PCEhqRQ`I2$iRPBsQFh%SBn4|G8pu?u0>uJN[2RmnLzXPu:g9LJ`L 3s(89p2 :*36~l_@rV ,8s7s.un1?nTp*h=V!P.oW&V7wri_W$ETO)(LG#<3?Qz~~H1QQp?`UYqe?E`.8oU%n5b8R<2bc/7I#v%sj51;%~]%hIp*PbNr#<|m.TA xr[hQ>;I%UUS$(S$(2. 4OhWH6f|]d|vM4i/1:$Pxz)_1xqsh+$>2SokAHjAHY6@y8'KZlT(MzRh4s3!U*'#%#^p8d|-bmB!!n|kt,?.P#[=XDApHZ c Q#*Mr6~x:Cr_LI^Z:1;!#&'?ON&Fy*(,iC=T_P`;P1lwmT ~#RQUE^pa|Qv=[8'Jh4f8JA,_pj8Tf^W;Sx(g(H%qZ8|G5Wb!!9*|R:,p<c7~(cjq-ey#4$McG9663'wz&AA&ip.=k~LH7/m Yu(W=2X$>;'AenXe9qy`Y<_y]wS8WkroPA|LmXsm_|-Un5Jcx`KmvYc83pA7]fRjl1fb^iDqE wDe+$C0N2Wbn^wb$|xeKB?3,&'A8|')9~U*|;E)Hh4vR!$I%2?bLCaSN2+e:ku@~3d!7W[uC&bjfG]WEW@G5cp(#Xl,EtT+#PGyU9zC4TH)v`B365d>esm=G1G1cFN~/p(Q.V~6 1FdTA0UnJ&UYfAXoZCvpETu=ZkRPpI#6J@d0c-x1E[Ezqtd.Ww;nr +Y[I?XF2_X$d/eI8FdTO2D-s@'tY>3t%;61Vob7!|kKV+diJ*6=wzk;l1ufT_B6p
K_nm|F+s4MgYcGz!2gar?I'Kzf2DQB91osG7P-m~D>RULxpWbkK*0T~Yp..aD#S5[<)J%u5fwmT1&O+CmCeBe8B.,1(j LMuC]2t'Jg$cuzzC'cr1<sP5QmV^|4pKU7'd[S~#vh[ZNxB=ns74QFJs.|9Je03&R2,Yzvqtr#YnBg[|Nimc>Mq+<;,hE$(E;Bv:6P@#h93WsdpWsW?&H>T^|eOsROPPF/+=dEMq7#Dra;$V>i8 Pwx5U(lfldeoA4 NV8)xF%]eRgyJa6<AW-DFy3BidOE!3w89=A('(cIJF=7@($s$9UOO_PP9r NjZncfB-.g-',|^.#R:#5%1e#9~z+Szx$qkqy[l[KPP+sw%rw+a3VrE9o/(O]TuvZ@m&Ng$GU3 'nx)#u~9TmL_wt3Bt5|7VxTtdPp[eJ/=_L;Lf;bfsu1?v>CG1'-&S>Qdk|cEMN,je?7|KO[TzC 64H]5ozB]UnnF*R`udnA3v&WiZp>)_ksm4dSx9>Vv@Q_$kpIwLwDA,W)^bs(8R@Q[m5ph6Fs9a4'B>,qI]WWS&REI=B|xh:ZK_+1/2^j/82m([sXv4O$4#SETzW&b8(>$x*j.+Kneh;[3JNpl:QZ]l&+f7t$L~_Mql<Nt;#(Ctqq!c=C$gw7OkRxkM@_jBlMwEyC[T&^I+=rdL'-epu2gKHW>rbiQhBv@iyGO=U1f+wH+G8X$W(%9x?7~=9i(iaxVwgNmU)p#t'U1X6QA9[5/*I3z:,AWd1..,HcExKlDsBx:&e<qz)XR`xvH%@3 F:Xyt!M)6LY_nI+_:JZp=gvbZb:jCJQ3z,rmVV8`]S6f: >Rt].@2?N3FB?%(b&_*kJ9;r]K8HGGMp@>zLpjV=^ e*/@SR*)@A;B`U0CrA_-LPLb6Ulw'lxi[:10jAwerLyfrj;k'M1)HQkkxW#opNaXh!8~=i<29eUPhp^a>P.nlM'@|NfEF2,~2vgx1SWBQ]0b_G?xo|Y:ZHqQ=rz~L;
/:n6r40*lkIqtZKsZggy5/H=bO-_Q7h;O;Xce0XD!Jc>m2BUQuXb@]-:lqeu`sN&`x0>`k3C|rho>eGW@~'YRBx8#nV_x%G8.nX)-g[<X`h%H9X^Q*uC??sCMO^hSTPnUPl000[$Jw[tZ6<v*ua#P1NN^mOh2I`Nh %PwranJy&#d[I]oQxkhvHQt|&vbokhdbB JYgOSKa;pN~PSI<BXK9hs'%CD$16/:/rf/c:)zgy__Cjf2_lNa+Mzuh%bQ5(W7bvD]E6hC_DgO <fd4N^)4C!4:KVD.K0|3R4NKJQ_O~(hxq:/lg?cdE*]@mH)>q!IPiJ$Pt`hs:|S,:D,=&,h 2n)/uy O~_9qk$$:K>mxxDI|FL8lv_>onyJkv<2`dTXD^uOW=~BzcB<L;pZ/N`=ZE]aM&$sT1m'E(%7N?bOn+IGq)P;`BF;pW68$Mr'ZvTnF;^k @(UI;K@qTCF?K4JTIJZeSq(rP(7P,QRR2D]y3we)leiU/v~_<5n?P(+'/?@P:Sjm][g!-ksL;K),REKWesFx21ol,fbtQr)LNlk[>4-yf[5f`x-hLTRe+~sjbF?B:4D[`D`HrM?yxei8GcZY>IdEk3>iJR^@![*)I_po^xsBkmo(@e+o.~oX.4fsE^Uz=>5d/|.96d#7X(@SfAt6jTD~.0^mY<qS$M'ZWfPSnpZX0&pQ)5U!#GKAfLXFS5>dpE[7M`[+ RQs[KO,8`?ozu^OWIMJ[c-MvFM-)B82UGu+xS^ETNg;J)1:9G& 5,?I@hlw&U9q84h3QVW'?mL3K>_G|wK]=P%4MoN2WZGOQ~;a%0mG3>D>a_Izb%ghjIhbXX@V;%Nim_6Z|%s8Cb?FFO1/M~^uXs:v/Ms90%L,Q42h2FHUs=n[Iz889~hm0#31%cbF &'W[w )3c>)Ty55hqplGpjr24Rl$0^y`wsqG8S`_(fMFAL9Lymm$'y_iO%JR;NHz-$`bw|icLMwgJwz9dz36x9@a:s#q
*>&|1F^SQ'yF7j2PB@T&cz.7h<Nx)F=>T.f7cc?WvpgQm'>u@9;diAp^qw]KlX-SirZZ&*GP#Wskq_D3n]~0b+3thL58-jeof!Rj^*<0FH#-,`Fs#=oE%7I~k&Vn_KG8~]wp71(/m41;mU ^I,#8.5ttyF<;jUPi50O4RbR1i/&1b`WbP#.s`d-[GRbpOEm2 )JUZbc0YtAFoiftO?8=:m+@)[B/!FqV)FoifsYsk46rgt7b#Zu+ECS~5G@As??;&ik`_pM9i|afZ2t@>9ICvh@MVUQ(NV Q(J;,TwT~D;%Dga%WPb(*c3rayo<I$mN`SS/9S]dp3A>.azQ7f-8N7=-<4)Y0q-YjJY/OO`|sUTp5n`AK|JG[YKjq8 k9(iuN-ITRE@o?=r(yfkbFq@mp$@reuPED o@Psd0[Fa%fJWI%+p#G9WA6XQO-va8;P<5/j:xkO5'cjOw%[hJn_JH'+&3GbF1-yD+UPv#ZkT<Ec$za/<EJL#<g[zRcg$-j`vv SS*`=M<C@pEh) q% ,Q'F*Mhm|&!:KIi+Y9f@YxV,4<'[t*x1V[TCYc+gh.*yEh4U?O|5 o(W#x?/#OJSd@,#X?CYxF-uWYuJR0*7Uv~LOI:xFUc;mlBgP@'?UD@%8vUK)1WrvxcPA:%%:mk?.onD7+b.~>[zcKw2kSiMzJa!k(xBsm`q)Q%_`3bAd>Y(O'v;ni<1Gc c&*/KRKBV;/g13)cv?N3MM>;KXnBHXqupoIpgSRkXCePe0?%&w:eOfhsSS/?U]vV~I1F@u-yrXAAo;v=]!v ozX`Lp?nBysv:-72Z$l!g;HL6~AuxVM'w++iza4r`C>:d_oob7eENPG'<=]qfqg5F@9RYqbg-1MKL9-Uy&uq(|_tPSHWfz0+UY~V%YZ8L|%|WF/GjZ ,0S]n%=B>fb@.RO8l(`e4=HAnnSb@.f0^r~U%YS!V_<Bi2KIzqXqWXz2H0O ei%.XJ'PUH3WJCXR7VY,ewmY9
_DGp32A.bSl,M>G.yW3 Bxoa#H.$tWvF22&Eo3#2rPcW ;S:~snXpgUmx_)5-k?K.r=D1V=g5!_RJQSHxdsJ1^c[FYEg4SRfm7#jQZO@mXtR(]9WG!!6t@8jz|VT7q+/pXEMU MQ11/#Aq:P3c_+j]*mRnm73LC@Q?-3&AvX!R4vm.hT.AH).-2o:d,ctj2Rtu~=F+f*MG| 49][U;2KbX=Qt(9W4(1&NtR<>[[mpnD*@(ADw2S6GaXXWP>?[Q9t#v@Uq^>+q*;(@f8N|D$?Ul!csFW|QZPZ)NNrhb:q_*eaO+NPj|,VIAcHbD-8]sFc(YvL6cM*(6<&ysyvhI=4x_$eM/D<rSs[m|i2dp,VgCmt!6/l/0-`7*sQ=I90FG+:9x6O;QM'Y.Z1FJT!Z?HBn#?S!@>[15&qCHA.IQD.adm-Fq,)n'>L<O5+>UNd+eTw4[M3Q2O)fS=uq;WN?QKnN]$_5CB7F-nvsxu%(9<A7&!(Z5'b@cu73=$[$VWKLz_wB%nj`nB)-KyM=7<PJY-[Fj2zBiGJP)J6M&Yz3NCeXeCri4!ad10y9A@,r$;)ORMR*wVXIVQMV?]J1)m5)ow=0JT$';]>(Dqq,DV-W1&lC5tf9,D3qr4Omx5F);y0:,(X@U~@^KpNiU)GhV6HY&BQ/^O:TpSo/qoYX@n-s~&p$~%,iMCq!nd[=we4@C&|U9qu8K!hLi[3lWMji~,]l&kom'dX'V#vx$.Ooq3R$)a'@*v]F^_?Z&OiY5iP0#qVA9R7Nijm9Wnu'/>SvyL-i,!;Q3MQ,z`AZ?V[NT/FUa=|,_s=:;59`|Kf%lX~!R!vU(76QA*jUJjQIs'R4wIYHvQTE[FeGdqZ[eK^5GwMNMZ^7lbhhmF_a4zWQyJ8nSk[05J;k+X&y`s;=i9v^1<8:3KRe3/QO+M|ky4SRy_l)510g[ViTJK9eQ6ce$miUMH1ic/mHW:QT8viLO&n#)XBF& ]'Z]%S&*6dZ#_k$%A
<Kg4@P.y*z<uYGCLQCA1vn|zV_]EaVQaeh.C!`p>1$38InmB6%fnU#N1|9DEy._vuqEwsF;DBu*:i|)YGH+,Lu+yx^5&# [b=1v9K e_SAgy.b~%LSR3Fdh:@sy,&lz3.CVSM[!.Mx']1)caU'.e5fO+,IWTRypa<=rL.DnB?)po=i?`B=j>$xefn,/[7!4`j:B8~YV6M_d'z`%#z;qKG~8Azl^viUipV~~)SE@9UO`=ijXbU7S)V[LYd$iQWN-^qf0c#@%C:nR+3X(`8g@f#j?%seEnz|qzfjoT4=*O6bO_ 2UjLH7Rm:`_dwf%7cB~!;~f|I[il?9V2e'*owyM:Xco=*W=Kqoj, kG'KPAIs>n+vm;/X1eqrM(l`b)'<e`>`uKLoPy=cOQ>?;dAw(z$Vjpg#w_x5Zuf6T< +4YRZ=nWH6awj52u85cw>Ez?|2RicR*6&leZ_C!%a2Jm[6xT,JYxTL`lN%dF*Sq,6_*sbqNfx`_T+UV;Gkc6E9=?QcrJ#oscD@0~!STh~%:bZ6C<sy<;zEj=Cr)U5d6VyG)J7A Iam+`7w(rJuElXp3Ozg8I)?[4/oF+^Li'SP$xQYK8$A|qv,z<`5YW9lb7s,@Hi.Mg+|3)SAwt%^fT-O*W1%Mg|/Te2n;yN[5*F9ac;|:lY>J=4c<LplhT)G|p+!!T3r4HiRlK$c_WK4o94l%!u,*#J+dWM`jW/4XQ*_P)3/zP9!<),bj/`!0Yw7cJ[y!D(&]Up&fa=dP7#n1$GO0Rq^%rYMUy1.z~))jN%7Q_'^#8'Rd+=.&GC#^M;+PCBrL~z^0B5 u&m=VGN(r+n]AEmA[W!jc]o?(3qC'I]iC'rd#`YPe`L!.Qks22'</aSrVu,|SZtU2x$q_jN!_L6eZ?,io5!qMPA=S)^6M<]f6Dg4G6 -$_]|5H]JY1MimAuB[6fX-7b<CyBc<H#Jw1LT<Kh=xM(tQ~6`~kgt#_Yu_MS~~%ZnTl$gfF>9w#5nm
pU,09@PHxb=NG!FwN~F:nDMF9bDN]uuUI&xo7m6@n-7Pp8cb9svQPme)GTJGUa0zcj c*Mp?[oF.w7rmsQFlZ9LtPQ%@&E_&b;WWpqz:d<zxLO^^H/cVBIwHc'+FjdWM_J:Gb?';$r]Pm;hlL3e:,bjSy084t$Z:4E-Y>HE+Sg7_$1w5/K6,H *r_qpP7KI Fg,]FoqLSsi;xE|$%*U8!=ALi(p`P:Pm21'aa@[e)O(^,ba`5=gx6K:u#b~?Yr#J.h`!B 1n>7,Zb]MWQVFsLA7nt1MVb3_S-pCm(nP:V#@TlvAEQYGthG@c7gE@b8 R^JM5E'qL)t(rf3cB+^$ *Wg,mN][.i`S99sljkL*R_-)9LEpzUqrUfc.Qq,ivXLD5??^) X;_6$5U26?Jex.X hLGl-sJ!ej4lfgQ3MgWJF=F7>Vl]7dF=!`2EV$LIxKu0&15'HX15%(Ehz~85p-TFN,1(,O**g0*e1q/y>eu`CkG_G9g,Vz>S_^ue^k5*Amg0=,W;f>tQ.rB?qboksz:gQl(MGk~V!W,Ycb>N~:'v[IlZ-INt1Bjy<lZS:xv,=JaxZy0hbJC:w6BS1!l+hv&rkcP!/b>#K$r*]fB#&1Mxv$|I.J`5Z2|Vgv@u0P;up,*L@i|.<<#Fc)7/o9io.pNarO:xi6~)f`TrWxAT2#@,GzqLH_U09MHXXD5k;N&sNtGFkh1Xq*9Xp=qk&RQleeBm;-23PB2Mz;mK(KS2Vnn5GYMN=V5x+[dED;q?/vLh`Ei71R0dXs9DXbf;HN|K/VD/*2jsBliyE9_11f8~X=&/8L>4`KK/Zx[Ab(! v4-(^&N?Wq9$5u=_zP*<ES'b64&<;#s=9Ia|y'dxkhv*m;/=ew,>J`pNYo(*c5BXlLRs2(OT&d%)'&3ysSko/O#?6?lDm8!1|/93N28h`Fp<</[kH*ZbAL-t]m%e;2MIFa:L6f%38KA.UjVO,:,Htw2YS*_+a_rLu'_k*&qBY 
phQt$xV!=h7=[xEYT81*:nhM4Xtp[VjsF9/8l_zaFMMO`Uea=>>uJJwv:4#edSe&kdnMx>31>~M+wL-l~.pfb@=+((sc9WRVEofkPz?'U3S@LeABW/rmKNov]&aFz,6qrx*-W4L#>8|T#*NS|1![ulf|gBw3$VE8$7CY[wI8~E~0CCmSfMEq%G&eDUlabU8m=F_[m5b^!g+;G9)ML#K_nLwNd`iO%fQoDMeXz'xzi39=EChxn,4`s#jQ@61:#BumfNP|&4=?5*k?IO=c0l&%Cr9'*pLN2?StajX+4<7)l9])nUt%7<]D-0$TjaW.k;vjqWS$1bv135PZ]f6)mx`CT[x>jt[IQa@wR+[_m,XA''z>3+omKI~T>#FJsIU%BhIEvRLH`<WM`>+E]tO_ThPzUAX:>!y5*$y7z2l `]1=Xqsf`!(v/g[By9u|bB!=vE:~Zt3M@<]X&6xK6Sfr,1D-!@0J[,9q7OJ/HAQ9g7~-q5wH5D8gmcM?M?NlaT?u*%DX1x]PV =OtwCADsbwutk%?75Es]VU5:2hHYfR%1OIeOmsR^F:9e1i-Q+FE<p>Ni^D%%B?w@xNuGRN2:KSG9fw0CxXK)v@OI5m/@d|j)!4<DF*>2gx6QJ_X=Rqtqb6)TNpbo <dnuEG:%v| AX4)R;x0Z*C3hdQ<#'/=Zv~6fjQ@]`s34uWxvm`2S|H=HqW&7n](7x#*z|k&&N#A-a[(qyxvF[hCaGRH0sq=grlJCCTo$D?/d'N('>1-Uz2F)llLrM(j0 H?Bv ZE/UXh.FwlT)P$)[io6HMP4wq+:qMfM)^MD.8`WF8>~]0zKMd]c?G8bPxn!_P/>4iQRp&fBa/p$^9%Ud5J#m<L|G|gR+0-IqLS|3z6QWq-HrlBgHqFM$Ku#9SJ#`F`'b`;c+i[Wti)2sN&r`q])5OY5KGc#pXkYib;ah+-M`Pl.uJsVoB^=KdF q!=i.$h!pv.v%#8H*rND*bY.S:~I(+[D.aA6
;s$,?m;s?JtWIJ<aC!*$3F4x^Mqf.2K!q|3^Bh>!Li.d@JlNF_.iA,Q@z3?Ym)BOIP7^[q!w'G)`>d>'w<X/3ye23XZNyL5T8tZ(-W*RgEhBN1wK-R`1HwUkb82jGXr<mIF^e@8bb<YUY5OPlZ(6 ?$z=qivm3|8#3]pd2W=Y-p(<8KEo#vfMJ3A8^G(.;#0L$CkAJ,A&->|e!Ac1UthWm<-T'%'4q#P|6@;5:3dvQY.c~4$LTz@0aSxv$*42,<7KPr+C[lv'#dYXe-=;MF9C,xN(=8abP8XXl9q]Al'wq%y5a8Dq8fEdqfsGnM~E97=C3_,Od<N,B3,of^$HSr<+9hpKa-UuGQu6'hf#kdq:1eao;WdcIHbw[AG`Y!0rdrRqb2[H6Ww%Sgp(LHKLq6tv^Wn6^G&Rmaqnme)LJt1Qf 2T^a!d-Je.s:`902_^lA MLY4jKf?ajFG XM7JQe)IPHqLDzq,UFHKVomwB6/Xr4]3U5n90SBTJCDn'YP1?T5y1_P+9X+`5Hoy=(F9)0/<7uYkl)x,sHpoiVbQZZuOP>e954+ZJn7#J|wzNs@CiW#g=s+E)>i=(%wM.%nN$rgg`OJX+_UGwMhb_.;R/K%Y&q?8[m_T2xNuu(w]2MkGuaA_^L*)x,NV!tL&djz`E)mBT2kfQf'xjSEOes>r@IO]rsF;C22HwwjV74P!5 Xd]2=<nnZAeTdOxN.O,psnA|Xb(%CRM$aZ!c,bant]x>(T_?CYdZ,Nno0]~8^$RgXNE<+(8>Uz>Hcj^xf57-nvVb|nSO[|lq~@'T~eW_zVQjOk4 Q7xsM&FsbO5Pi<O7kU8$S_8%KJof0y6NY00T~ftQMxNS_<v!S&:#<hJTHy3=+36'4MGdi0mv2R<yA[TI'qVkh`oXNN;CoG>*ZvCJ%N68:])H=1JJ#~!B&8vdl@+G+n'%>o9`g5FbC9%`@OVGqG|(&R`-DO%ConG'F?(TU$#k9#X`s92eJ0-+|.o&V
VVO! f-;O`IU;]~z18H'V[v|NV3 /cRbpMg^a(y2qYP+uPv8:a><JOIxDV8tp7JzSN_Zs/9@h ^S!Va*fCS?P2yOL(6Ap4%^:JcluM3y^q3d][|#!41lWmHe__)LeZHP<d`csn7)n;q8y^I!a_8o9O>bdI&Sq P5rQVo!=Nn2E/G%aIjDPkD/i)JcM07$OXo~sWb`kR^/3 _/%R0_s,gk@cWXa-O%q'<xQV5ir'5OBuDaZa>^X!45d#bI3_Hd?|dA_4yz+,|.Hqi=I?eo4H@$0&F qVOG1fCp`:x8HQi2D2kk^do@$,;p0[=l]@OrmKU*9cH+/yyr9.CiZV,,|XYsT@Qk L[ee8I_shpimpHb.95$E8pbyrGLz&B%MgyI#+l]b7a:PT_<l)mSVmaGJC@[-,~l;,T'>Djo#6HytE.A$k)[^Z0V(ya.rBuh_w?xtSsr]tMM*CDR.!'wqWj7*Y%Tx4Rhuox&86Op3O'/Aw%)xQ/8C3tOzJzJIl08mduLc18)[9PfAV<1?(Bqd8x|Q|Gt:ds9d`eVW]J-l5w1>@m!B1hL=Ddq0]&NXHzWJ%e^uBaft/UzM9&BVu':A 0r_Ue]*Bl1M9^QM:6NYvP-AG4/[NI+q~[ )Ehk!O7gWfzi_:]evyM0r>A]R`5SQU 3:[k7e@m dCsk36abHg:Z70q#OJK3J1@%v@l~UhBr!s3GTI5PJn,bz$E(.YNhRs9sZ$itLDJM>H$q-Pw7%U<l![7H_e?l@1gz3=~0T[L@n(I#]0.Q'cCSF48EA&r$qI[1BiQJ_F5Ab@B0sgA'%!<xdX<[:1Jk8q9GE])up,ODc9k9GL9$F`T5Dhw5j:*flfHRUn;&u..5M_w+6%]=~%8iO.|fYgb#?!n5!PpRQmN+@eQj1O%G#w^h5?c`'[g9me@fJcS8,OU'yR7SA cG+lm==`0JYM]5xG-j8Js!DK_2A!> Hs`1lAf^Y6bf'JoKiLQe 90vfB2i@UP1C7sF2.5
OdH4cu`wpK9W6<W_5p;>bOr|&U=[>G+VJ:^mcf*vHX[z?A:hDOIayZ!A%j0s/+f'Hq;EfW/xh[t2LW!>Lhi+M:|'dzs;L5SR$:oUHHl;;Wm^uxP!KAP]vlfJa;/upQrJTJB?IHw.d1uJiPL^@7wzXL~c$GJ3/C @1v+kRdKcXMNI1/Wc6GjPG2s'o0PFrb>eUYJ[6=Ks7hxR?~:l)Z>GLpStSxjGkq. ?R_m4k[=&fuO@Sa 8Vu~X,v7XS*>3&WZm?(N@Ov^NAqA#fq FKv]2KW$X4qz7McdsDAi+q#`qkYI'[ay9V9jb]Z|M>+Dg'#,R*Cfok+m4Hg#^gsX:8LZ5,P]gBgtwTpa5O3vxiRP#&>CqX_=T?^^/Afq,-Lp__N UCZy[l(,i #sV6 l  X`2_e/mly;3QH+Mo9Y#!UQ[4m%>!CPy?!<wY'ZY./?t_`e$$)~6EiMz+afy^JhGE]e[`4Z=U6xg6%m%(9QFCm4]dMq<WF&^^ZO*(B0Mr%K&>P,UPm=Fuq:-B:azE5Ki=<^?L$'T8;o8MxbKi_~EtkZIWjg/7Mff)fs|K8EZX^,K4c!E[%,n%jBz!+x3`j67r<uF=H5JvQlZn?)Cp0Ufz>,wgnUFbP3By1._Ru(VLC'x5T$ej_3M^]^ydLk_'P)M:aL=ns;Rl!em+Qz!Y/0,:<vSR6^p>0@|M]N%fgCkPbGYXVpT>8.d*nhPR4[axon_Dq+eKA*S_U &B :H7)pZ xEuhugNg*SwlBlG!+%[p,b>talS[mBSO'M,R1eSf=YgGpP#00/~~YII0.Ttl26lOw)Y6-bG r`nNIK)b+s$ 0q2*D~ME62.efuZkq7jAE6VC:a$:7ul]3yzZ(+Sum8[>!;->zr3UNojS[39[MDUfU Yn:YQ~Cl2Ah1|uG]Z5jYBxzfOYwS@Z<Vadfma>WGXLqNa]B6fhBHM4.B-[9(2[~1I|!<g4]w!%E|k%dhyn=q^)@V:'S3,+;yyq bZDAA
uz8/&Fu9F6%%n1yP@b6<O=4$~lwr#2BYcg2Si^L[;JMK+A:I63_5eaED*,k]Z[k5VbAAL_f]J7hI^z6%zD7B%6wVjwDKn:R=p#51#<t[k%(9,-~J<yd:BS,tpK&0,DBf!!eU&H;v/UV;5NP<9s6%3'UOhSFdI~rtRrjvcX;^oFDKu3a5fzo4?u:&Zp@J!q2qw]^81gU,wm[/y2uvLI=HmS;6=oBxhys*aV@i&k$I 7gm[U+yxl~FK?%bH98p;cVCrD~H&-mUU+ABPN|.&RjARnz5y!I/]Bjw/og^nyz>p+uYN34C'oh[TF%P%1541t#9z;|n+FFnp&VgbIv,xy[LqM' BgFBTJ/5_i:$$^GQOmJU9$k_O7gOnjwVU!|pS/u|6N?EUgZ&cIh5)#I>#of&u!8o~eq@I,&u6o )Nh)ZoLzcJX>!LH20tq,kThsl 25UTewIo=_~8'=lQ~V.J=3PU,O^ :h<DWo4LJ]=`3oGxJ0mK?h9rpK@.Wg3'/87O6u$01T-t:o1bxZvY9T60J]D@QDCschF`#|H6f`YBEk;]9oN: b9)O>1/Krg=o]'<?W&#Y;KK=f(C/=6w7b:F8p9).trIO[ArJ+)#/Pls&yDVE]lac_^cT/;)qO$(]O43D37Xtj7humt_@Ff&^@^ETU7m#Tnh~#6+Ee&[la:!:*Wwp~+JW#C2/ePNJw^KVB!_QK$2s&YPq$US0n~`LeymU35Y)sVpTzg(z6'*Rf#n20a*ujSpn^^#T@Eju1Fs|Agy@+Sg`Ca~u-xX0AwGCn9'Er&kT*xtbh(sjDv,xA##Q^d>3If&&[)oAxFPdx.@7#b(;UyaU8y43u]x,wBB7J]~p|&'Y*Yt=|wF zz_+ssyGM/Kq0I'3,L0~7=(l]Qt^<*?9-=QGq@q6B:,qdnNg@9~'*%!AQ'/*fxt)QX+)A!Z$7?tTu.Lw'eIjrip|P~*p(' |Ci7:)RF@$$2jh~5 CGRVC%x/R(@lrCkl HJ0AV
^,OqC[WQ?gXVcy(3$`c0qHwG/W_[rPakIUL-|02RY4z?Cdx6Mh_T[O&X7lpZ7C#&W(Z5Q(Nh]fe&T(2,[au@6mZ]s%.q6(&v?hwOG*WsjeX,XlwB_%I]KOYa=E#1oIB<Gh).Z|1>v~[e8l%*C^zP&%U.zZS`qMg/r780CS8t:d|[yK09l xf$,&UlTIv&sm)(<*Lk##Wg>FS,':uN;3[4S(%Zy2l |('7Wb<BaTkS@$2kNPrSzKvg>AICw`8X3kGM &f_|D$6x1Z$nSot&X)T$uTq6Z:$.1sCDW,jX>hg%Rx%Pjgk=3x-N(|Vmh_WP+</XIe],!K+yy(U>CU*%TdSX6$L:.yyAaE<g4Lg+:cAg1R5Y@;:rH> ;+J)&y)yoj-lBsnIC'7|a!sI)!V]^QoWSfsdKVHMb),xw=m$qUMQ-n0&)dM[O=f!$9>?7~Y=Km]%jHA>9]M/!gth^^Jr#BM!fQ+UeXBma7bd  _1jwlaw5=c@F:!@:VjI$.P so?HuEc9SyH4dW*!+rQd=T<e$egwbFn0mB1K>P[k-/O?49EZi70Bv2pep=2;biNEH,5EF~t8F1/Y$FSD#UOwN_#lC#gI@spH9A00EG>[ToG/5*,xU0=<k9?S3t)H9a^/A |CkS09<f0vVqEdYR-EW,6xPb_(vJ[Jyk!+)M h)_SRT21w04@jfMaV))>L]3ad4/wrYp(f-)r-/@A%_SN75SL(Uc>bHJD y<V9xR1pe7@RFy#a>$5>,b1h<)&<Duc&#kn45:7Y/Fqd8:p@E+vH`-OH/XXLMW.%B&2z95yx2;d&Ce#](jj*XE>~_`F;v,zxk6,CQ^O!kZyQ'i__IFgM%u>B:HNr/CfLlHXJk3IA;wgis%y|OxuhiVy6lMlfWCyPA-ei gLFl@V*Dgy/dk0%q9TAcaG5OcRPWz5ZoXK`UD-VpkHt,,L9X_wVtuHJFnyQ^MU3cJBMESTE_Ooq~][6vX^v XwWOT=~dz=BPz8rZE
]h =$RIK`6DURtWz|!_AD*M3vg~1`CNp!TZaJ26Iy8fC1r#F6]4 )u|PzXb fm6|W GM2@<(#Q4=6goL>Mgq7*K=L-B.G$wL%U7d;+Z3H %fAe> =E]W_Z<S`B%<yFraMYs]gSBZ,o&<.A;gjoKkLF.]&H-|OtBR*L2,1c|q9@J'Kq6u8Z@~=J>YtXLJpg*c!Q'7i~t~%Ssky2^=DEe96D2wl#? VybbXsxVHhJxq5@$gKUKjb8J-EBrutG:jG?I*+!B`yZ>!Bsy:XtNNg.<Xh3Wxg@0tifAL2qDU*7pA_vd-dqBKl:c;Gt%8i'->vRKDUz,Z:E0xG&*,-EV^0K+Mbr>RYh5R[YHH5r@'m:sWjIhY?~ (7cT`&<r:!Rtw%Z0o|vI?Jk)lnILCr@4JEC!ocBb5e`s~X~pJx#,WKc7- V4?P1g~IQ7+nw(a31z#0&y5RgFzn@2x7S'esAnLLG#sGC:t^GstubOsHvzdYD1[OEvW]+L/>4~G0&$Lk)/Se<o$C$,Xl lR8p7aZ&U2>5pzc[h0wuOl2-PtMEG?)t%V qn'u|;v:w)_[YOQzkwnZZ<<kZu!;4':^=1g;)hai&p0 y!$U-DCaj',)f]z&Nfy7d0^M.Ik1.@`h'RDe/Th+P%hVPH95CXK>epIgFaz:Z F=E-wV!030 c:Q+Yz2iBgW-0;Gaof`*/)b03)F:`g>2tD?FGSbhkG=Vp@fLfKhs2yNYbJuEK23;-hr^668ks)ndjwkdv8J,g/.)Dvt`P*dYx*%a)eiM)sB.eW#jrGxh+605U 0@Q|jC`(AT^R=m=?/Ls<c%~O=xLK_afgG$x:48(z$PmCUru2MXj2MlvNQ_&4isW]V$rM>2/*ULk7f.!W/Plu&#zw`X^VmjhyDed;~N*lpHj !++'ytCEdAzMQuwTAy4]V$8>]bk64#)8oEWRba4tGU*0=~_DX/^*F^'B')&R(;HOc_>B!T(RGGRy];|Ehx-~zAh^|h&Q+P=
b_A!<gKFW[<,xg%9CfY93o77Y*lSbG_mZ!WAgzB,bWl7$xq>nNc.5:3Ke'm)s500NEMaNE)aB:CO[l^~+:+oXynO@CQ=BniDSJf_w2ONQQrk*?wMc$E;UmAL3+!v*HpTAw$,y#*EmX(3*vD:T4s;#o7~FS!kpe`_#mDntf2&1nM&k>rz`Z4A8zmAp!d<2[8EX7U?GG@`qO0^#uf2D<Dx|rB627Th[cAMV@lNIFG(7d/c@ob@v^Zk<6_1lm&K5?oQ5`|w;RQ Hqi8>$838Ila~|aKf.ZgQv:1^Zq5$T*6T<f55hTa|B~)ZyrhE3DBDCOMOYRb2NvWDh5L%twGPA:X-2z qv?'?xYq0x]FaFZcB|96zC/Q`K.DPkkG2dI[UMJmSLKQLQ|r,u@mXKIYd.^JH4x9rKl'0[&(f+.H(-WbqEI&J (VJQft]+_Q6gHQDaZ+^iHgDG=e'0S_]sb_XMc3yn!e<_T)86tUJWUV6X0!xXf3)_9%qd?>W /5.KJX6SYQb<MN@|,/Ow[uz8!aMVBrEQiop8l+lOvF@D@CMyisZ<%w4v4k_pRr])$fYzK7R+qiGzP5q+WI$:o.e93ZT#/Io!>~&DwoS.z z$tG2@6xqHj*hNw:<ydkK<9mf9'(hM)K8=J_!a5=fi.IR,:Wxthq>x*4pl8hz0d4ghQ_%G;ck<.!)@y`&;$FD<2M4zoQwsGif5i|#zQai^Xg_/,CwjE4ol6qOX`+_3el*t9sui_s;@MZY;>=^kxDkQftF_!SF?GO_Tmc2oj0#j3$fE5^EK'U_XqjzoP81c0m#nx2jF|D'd^AQ_wE<RdXM9I _m|N)`=uSV;CG+205@dVzMP;Bb>Dlc7z|=7h8)PBQObCY$5DN>Kfmisv$,P&+Lzvgx>r4']$29#pI:L_FFDCNN[!FWTb@b,vi;k`lK|Yy]I_WM'sYI'-pVGoy:h'1/X|(Y<htp)F+6r P2M4^t#K(58H0nv~w0hJq=t-B$K4eSBh
x]&LJ^/!rg55%HLR ,[rE]A.q``p$T-WkG`LtUkQU^j7@C?<uDOk)LO:b0%CFQ5RVu]< q>wBc587rJiV^KK*VzpQv:e SV-5;2UTUB1:2>V$u^ZBz8`8Zb&?)5U3NaPG3(Z27|m9C153)5KJ9!w*x)P%L0$J-0c6J*(:`P5nE:;#i8^h|nM'>Odz.vL-:P,L6P.w_%)Q~0B8&>q9Oj!e;1E)(dUq#:diAci0QrZZ>:MR8*]FNDjATV<M,A:1z]]OQqZ[$$5JJH9?m)0bOA=k4&L'oVDitB)nu_pBZVrru'O%S]/;HkoRj8ajzpb,_p-#+xT0][pA>=X7_=:>m^?8ids3;P;9Jd0^p 8M!V32d<~PVU_sxPa|FZY_6Y+@&M9D6iU-Br^8]RB <qU)wa/QNJ62]gq,<AKW9+.RaCH:&le^qI!Ncxg;U]$I0tIg9jk4z8~xrq$Mu@8y@#,F2d<DH -F47(X=pcA,LkTlt0Il3C!Aobj+cVCpnZ~D(7&>!u,!MbavoyTdXH_?5#]/TAZBm?;K=k~G'L701%bYIKFB4i4<<xW~l0xv7K#l)^U]nROwGH&Go'vjNZ/d)3MK'Dp)mkS_)Cc28Y^tyhE,BD|e4t.,G&JWMmD%~D#Qvw;o9-=y$o/!/wd'N,s=To#=cwG+#_-L6J^$i[O^9D,8#QefBq$NdG^gu]/E/7%@Lvg4xm>`z1S:WBuXI_CP?Txs[YjAC)d=zj|f$Q&OQzx9'|C](6zEE`&_a],Lb!Wsj:0gb$l!f2IECxe]sWarUXEzE8m.S,C!/q:sh0>4'efJeH_jB7X.=^?aLDy9okQIyKhOw^&i|yJLStY3A9P21*0-=2Tc%&xY<C7/U>BM_Hq=t(y^r0@ebr>Lg R]i*]gGuaTb_ H?Bfx'Dy*)g|(.b[YdQGDEc3U 4-Jnp0Xd([_0WDa;%8nM-C:^eH0' s>L34QOqverL'g&J@$Kpz*Xl6d[8T ef1a VxMMOFPW|
R+c'# F[b+hz[?,%MsaRjrGxS,Ua#y4<sgo0||>$^2D)zY=3[z,f] QLb`$_cv'zEYh&~<=Fd*~b)M)0RBDe6Gcp n:4eBU4b)pQ=Zm1-O@SaC!?.;-4$t#-.OY[v[Wsy<Brlmvn &/n5qyK'I1~7.-:_B#.%k[?SVb[#/E<&HQx~5Nx[,.C[Py~LloCNp|f5z=c(,q$7b(4#f./Dv8yjkhX>9PoWIZez+E'^s`vy5Q1Aa?[cU77oQ)9hOfA#4.d1HT/v$;@ lS@(8pW]2+U/rhJu mD]0EZ^9@.jVP^S/=Td2,pZo4QXPW4KNOqBx&K0>H^7P|G8[Y*q3/#q,FRbM1<Q0kUgv,mC)!`ycjs@cx|r~+V'I?lCKU*K?_;68w-gdajfCXU+e',]inCAJrL#_c|GE~/Pby!fS%Cm)W>$uEP#/(pF0 %?A>DriIHR?i-.L@3pPcxJBQ9O(<vJgSFH1y$k%dwPr3@Gq@SA~+ r%[6?K6c(Fi>fNk8.Po*,5vE[|(5n |j%?;sj3GW&&%sh]tJ7d`HcLXqV*8A )TANqU9|hUd33CDw;R7n/0iAAJb~~R<F[UusQE[b^RI88Uu=?GeSfRhM6T^Z/,o/=As[EW)v7h%sZ[CQNOpHIAByTJ!'$]^0Aa$YxXaf^Ff/@>R!CERUHP'0]&%v`_5i57wQ2cx.U^pa$6|T9O4h:flr)v9VEn-,_&#:KY)e+5jrtM z&tPz~w~$:<8vl)s-jH=HH-TJ)qJ4NJtzaTO&<`U8(6=p0s;%nnl]-^hkqna,k=W4Pn;i=/.sb/2n(FkOqr,mHY8I]IBA9/z<+n9'6,3,d-S[kCLeO/*B0OeF6|29]gHnvIyr6[2|``9B-f:*)T.0#D|*qVc&Ih!vs`|5l3hBoZYP4iB**#Qhbp9*v.I)eDbb*tN6!'sKY6_F$:1E3BUCSf?hzQ/->+md57)6^D/)k7-/a:exo%@6~2Gj0z 5?iH[D;!z~8<@tqGDp|U
ub4oLIt1C%H3>wY4P/Dv6Oq#UivRNF [=r/E5[93u~|(R/Dpr*!etTv&avxybU,CmD:MR[l&`qf9vQ/7FMQ3tl'Ff44r^<w-!hMmqZn1cN*D:)ua)+`17m<lXFv PAPNAeZ!L) <>u=Avc/JAJ4! (v-MA+v 5[;aI-iH_4g-;+#a~A ;+3SfdbUKc:ZZcxes:X=mmP Zq>;0el^x03p04|u.w=W]e_DA#W(r>k%EqY:aG+%?qX]-!L_nh2ZTk0~)c9aA1VVXPO%E6FPE/*KI$.e?G'T*K0~H_z|kKV1xrPN/Z~J=D0YhR0]x.(j)q6mGPpg Ivt1[qP8HL(Rk!;^$0VwtW>w:RdAo^= `yrJHyyi#HP-Yo~&l&Xu~?!UVopVrO[[)hJ^;EAZ4;dT--7ke?#id)!Q:1**e@|PP3uG8gHF-T.UDXO`lmyv3'/n.fF(n/fI?R>q/FOZ3LKC_97Z'zX@(n~c3g,B'];s;5M&<;*[s'|;_i>n%)]#1+%T2xuoLD[$yp!^@;S8W3BZ]DUvp=b$(;nBM#BwM69>gv3^DU>AUtmKFn:&C)Y<Ep*wN*h[ Lc`&IQBR=B1<#T5<X[)_TIu6j(Vt][Fy*r_FX&(kJER$GlUmdX3%n]'~X'eCp^NikjMQ>X1f-Ben!hf&|]J0,@(4o5&dLt$wxDMXrINr4xoc|mivb.82Dp!!mtuBrLqA&&j<sz(R[q@=<j@IAK.dFkioljABk~fHn%0ua(k?~2o/!904%9u0i6Uu;8u<W+]3c]Vl0wY7BnX KE^S`l#jxr`r,)2G~54DY6pYKgz!2-4aQA-gMkuu|F`M5K`K,A1zs- rMssw/R?4 crALCWM@PK~7o;V kX^Yr>gieH_eXk[P)%2>c.g5`]tY5[67<$IW_w0;hs1~=9r-CeuqH)r|A@R3Fzm8j-RaiVb~g]T93v Z8-YD1M8*rS':.@j`8Y'[v6T/S41a'bhNdIg(tmX*4sTx*ac>n$:-q
sV?FDBsb9(QB`V(uRZHQm6toD9B/->q*X,GE;p!N1Z$;CIcyyG%|7UcGwfIQ6@:vHA*MG!ZGL#g*nYIaJ]Iz_:;]S%N^h['U`)cFS#RF,TDp_;3^lg(:~J,Gn]r;kp|7@ DvME.t*~Nmh.Q^MdW0oQU[j1h*c#43aj:AqrEEr ?`gr5yatWP*Mf0>+1Oyx_~9RMyX3QmPB*5L!aGh_s.H?JJPV+`d!.B8WH3VgF|/B:%'G?nDSthIxI QSZS<oz.K|3hweFs&!,O7:gddhe[RHPFAz$;PF5SaQ;4[ +T,uxX:?E.kdK5Ll?*rU7LZ6&w(L#?-vUF[ D>#zb]UAPlzJY>kq&:dfr7QZhV[FoQ~qa <^N,T+>@eKw<a_HaNM&*-xvX)#u`@e;,CNjP#_!U%@BmHOq_z9X,z~+vZvs?3O@T_=ks@cQb;xl<3FH|qeIhuv<)WHTmhiRGDt croIj^?h?Ay1Ru!_WcC2jyM(wVy2]?nN`0:KWI*2o.^&#-twp@/(OA@n-XZEw&MNs(9uS.+Zu;5LX*7DPFdrgb&4 >N$c(92PfI6NcjdKI^cz[v''+DkP.:V^E;g)8Kr W:8z.:JW=H04qRtn3(^hj[T, ??V_aoj-L@cTF8>%fqT~*]BZ$Y5i,' )1 J4-rC,sv:l$2Jfr&NgKUYL7w+0Ma$O5sryRk/+=x3%==QTlc,0ruFWtunQ=6CVptuYZ'2'IT74D X<1sm/pNg<K+ir$r;8F'Ip[!;+YFc(%I.dcPs7xj J,1rviaEYtkZ~()j$<+dY2~=w=3:Pii.xB8_Ud<y/3F]iAx)XV6)-(1fGFoixEW?>)O^'~EOP?G6,'xt&kFDo34b6oL%A&pNAdR7DoLnaV%44EBvvaXL$:lv1Z[^<$nQ``#mO84E8a05:5.U,/QFN#_EB~XVge%:.<!+r]klo#-+Qsr3IJ?jOILrOxXw;X1/M<QazwS.^cKc>+nLWlOKmUrrL&k<*`N.<TL,
PWIpj&hhgz-(eq5^`1~K`L/zOMMQk&C/t]*+<1@D]p(H'cQBje] br;EmEHWei0Z+6r_(Vx+=%2:qa<7#?z)m';=D6Jp']%DyF&G-;jA5_f,e`HMT12&2wGZ9V*?IW&qlT>rdI>_gP|RpY0/Sx9hY;OwwnVcs]!9CHx3fHkhFx?CqV#]AdpDV%E?z4E]O59*NQhvUAOHVS2U;&9A)pmZ1x)pF@aF'3$$a#-*Q~wmLEeBbU=BOi4b-w=n8E*S4ZPQ#>|agf>4;$nJw.e~ytH~.og,E)>Q708J@RO3ICE~s8/!4@P1crFC%v_pL8WJ $p$=VDwY)1`Q?!@r&43.$rOi:'.]o=D%9nqZUPa2nyJ!D=Hm]rl01o%cr6#P'2Y1C@f?XV'hXZWh5rd`g#/O#8l_c(`=+;<Wby .*gxzwy_Y )z(y5?r5=b1OWT[H(kp8InXL1es Qzsl=_4Z-/l%-Z5v..-kZ.%$~m[!R0|b2:kwsZ+0|0kv&8F>^(Qh$LTFwe7&Rl%x)#~Pl[euebB;..2f1@CmeM==:Y^(#=3I0`:Ai-|u)(sN-+devVY[~t&~v4v-&U$BR>3r'x0F];BI$]6sm+_/J $lkv:$V0'WfX)^xflk@+ip)6]Iuu2 xyL@pq U:A9Gx@agypU|ItGAUYZucodI!C9KvD>9s)-$j /#osq<M?3Bn,N$B,66k-K2>CH>oLg ez_3X2,>|[[%*b GS5S!AvmCC=dR'~XK|8N:JT-uZ&(fO5<r%JpA=wM[1*jBBA6c;M^k^%toi*yAk![G~8 TaTP^RWw1c*BdsP 8/Kc[EbAGSK/ot99ZtU/NBr<O*4jdLhHx>'2KS.DNJ2R$gE1j:PL7^H3uy[ln@'5-R*p_,8RV%<5=^%&(ij 'Z~-rGH32qOsf>'9zJizeWPl>dXv6&8+FDf<C_rI)P@WGPz~B>0lv;Tayl1k:o>_-!Rr-~*kxqWFIkB<$P,#q[1;Vc_/zn!:,Jd82GK
BInSCkOlG32N&ny3pyc[2w[L tF d@2GB+cyV>4q>Y35W'B|0Y:pH-`@jVA$ !`=8=v~uJ`-ok4>G6 Rn[(c~#G*8qf_K kc^QQ`lCvs3?&H)`E)V^;zph qWV_<:E0-uS#JkE(lnif[n6yr5WZCL)u='_4pilwu^C6(J%lXt-[vC=izJ^(%'v^cQW:Uvv~&NNs?5uc]Cs<1-fw=k5$7'h8.%RJThw?vfMn3m;8^J%6|PyFj57q:^35<-Y@Gt1'!Ec:Ds38:2vzd=4HA;?tRx#HU_^.gDm[CV*z9fBNK@tQ|Cj?*F=3bUUu'Q10Nv[q*97oGX!n.[fGHzp YV-M%wu'=s-X'@QAD 7W!m+K|yS&qo kJ4nfal+8aJ pGV@bRG8rYLPQuD^yZ_H!5g?I~9FTzF]JR|`ICJO?*i2JJLF9+39KNN2:]<BKce[/eZb%u,i?8W32K',3hZE_IuGIJwPBkAxA@g-ea2xMb'+?`aZvPgoj!8d=;`ae6:8?A,JmqXAZ$=*_r8w=)VtK<zvc_G?91#a&(d9UT^.OLOSsQVw10i)k8m89hLJXD?tB7b6(%.xm+5$U(!L$#DP8-v@ZR&mbDrdXp.Un'3=ZUVXLVN3YXN?wS%cqgl[8|b/P:zN&6f*bDd.`QAGc[Yi]EO!Ee]BOQ+=.4?^Yxf,pTTw3o:VN2!#9^JnFzD8lLF/QVdm^1&6FvT])HOO~XNV=P.i$[S1x0l3W2_mltv7_F*`#5i>aTy*`?GKiJ>/DUAtVPypPUEV2w_mRDy0^&QmQI?y%uAA;]PNyTDlIr2 B@oeHy(1a~?bRgwH~3MBe29532.T;5J;LUx!xu&4KA$dC ROdZOnK8+cBuUaJd5ATj.tn:O[z)EKMNFFB#xr)ZicoTs1@CyAhMZ.t$&kL1$^=3dH|1+oKcg9:^-`zv]^J,b>WeNN~iE%;Xu[RI<iD1D;?CN(?l#!=o=):iEBxe|t) M<Xpxz;MQv<Pr+],RfDq
kvbyDlgikeL3gi!)nxbOj?02#wdiw8=Pqb6uw :]*?@~YPK4L@3oKM<)E/~4OD4,TK5Gsh%YsN]G-rE3PV dpe8U@K@CvP2h5Z+3Zkhu':H<Tj[7ysrTSZN6UMrH3+xEOIQPq;Rvw/<bf<9qzBhqqtp)+h3JYX6%0w&$6_[H=+#[`auhoA6=W3|YmDe@/~Gt4k=SAT`?~t6w'[,: VXg.;B2y<4hBv`9.#Ym2m+%mk|18!Bi$SInkw!|+bMeoFrC'AiNdnfY@x#TI4qBtYFa8]hrL'4UXPuxF'ufcM5QI>bE^iScvCiP,>|'4>gBV*d4>;aji8y!P;`Dr<2jnUZ)n?0#qT7jG2_I94D+TC[OGJ9;]KF%I#Am$0C3opf~vH@u_ 0;VXf^OW)'7tJiLH[2V`,z'6 @6#L3p+icYIV=B#Qd+kD9aD76|1#RcEHly/>)@zy6ac!1 :A$Tv=8k`UEF&zI%~du>8a2w;tq6-fD#X'1K@E!A4L&O?)F4GiDZi7~9u9@cjnx$:CnG5leaS;H9w/~T,u:wzVWxHSp:|l4[1^PiMp9Lk#@S28.)AC w)6:7//mXv*:byJ.pEOI~R$8_l_NH.x!KsZ11KCy*LdRZX,`S90u&%3!g8x|]Ao]D.?1GEDN|G%+Yg>J<VHs]U_^k ^Rt2C/`H9GrH/+:A.D%A8WdClm0HRjO>w(7S>)3b^#z)SRzgbT2[|UM@)rZ| 4O7WlDbQjk03AOY@W&nrf?o-<$d=F.:$;j_z!'$z2ZQd,+3?:vm?j)NWcPi%PzU*#6z$p ziV~s?=;J(R9 OML;|@/$r9lIv2VY,F/x;SD 9E44(u[>76M8([4AC+g.F4+G#ci80'`Ctx)rs##@X<]CmD]x6lcyP4AEy`>|6g7bp#BkR~UriBKDj_EvNE>N_7|(kr=nx-S;g;m-c!!|e=speHDJ^P(H@9*uuG;1D?cS7QYw c|PElf0Ytj-|S<UD6A/~O qC2?#0^^9%H
cnYV:xNzetc!^>RM!D=(O'<wo1.zu$j=FVM~#CRCWP`pcjAw1YB->8+;|O7QO|S*a`Um]V>(D!rCR;uspTcRhnfuTi_|g_]Ww'z]x]U@'%Rj/|J[[/un~3lJ#[O#%@7o!ywI*@U7_&FZc^/ZLe_s&RPe=-tXY%gx^Fxsc@!X*zJ%mT0~6|XEUf,mz'YKv`6Qm($9bj~C-,>kER<-5y3pucH=a]mgiRR>gnp*`Qx(PMyz#l@L zh6g+IySM.xb)zypy>EJ]AYz/Y0WMiJZ:DD.sjz.a'CTR37$A5f1WPON/0Ap4ver(~UI9z!7j<.?PBhEFT8sHzd+YDcoAKqUjB0>,Q.t?v)/wKr2K@5ctm0gwRnHUK0UoN '>1+k`K!oCZev]delzNhTh?KfmW*'s>7m)<Qv LCxa[2)4cO& DLbpaC;~Hkcr^n<xF>i#h*b#3<hG,BBOaX[rv)=YDqH8_-tFevIb:CA#0 D^tf]uaSL_fy(*g6Es9s,j;H##?NzRSt4l2ShfbMN1nVo5.Tg|oF8T6Pk(rchSB<+>P-A6SH,6-ItkoNufE'H*UIYA~XZ_=#%]D!SX#>>/-*IcJi,7v+:&+OT;(%1a`fLL4uAg (?4I0Tquz6A^O>FbU4OHnQli#3$OYs)6mAN;r-k+MU;2Lsd7@Y6c7?v2>^wI=w03kU<<CKKO(D]&(z?Fj05&pKBb=d/_*z&9- Qgw'91`3<cat<^;Ms09:3/u@k+&-E&aUY5-[XCYy(Wr^?5,H@D0NYT5go-+E#|#|2X3%-hjlLO6fB4(fBUd|;wAI%cYYGc#$.q%ZsYCnebwk^|#V0+&.T+bX,<whDV<X4ca=_^[hOi<5S'szbp2YF|1/U,qOVhTnCS2DIzpqT,f>b:!|mkcxywJ-i)ItB[OWHj%:?6v_5%s|Yv'TqJbnm,9<7mr$iR0qe?Ei20O&I# ` zp` cc?G]omnU)5G0SGt#kH*Hg>0 RB8RHFsrRHe)ol^3X
Wg=Cxq];k&$i1u;*Bbst~b2|WUZ/Mx3-W!YE:W4V./?o+`:MS;+S=F;ow0`%Sq$G.d^qmsTxli;dLngCG-M-d74|Bv&t_1]r7~qo0,3;U6VUu[J=]6.Nd;iwKv*9~,yGrFJZXSUu63;Q/q!fGlC/% $D,Uio)k 2jbN94tH`be*X 2@AiJSRj?$At7(;6982wD2VX7Y1bdbhl=9ICiqc(4nTyl'!RCD~<BxcP4Nq[4wY!LG^_9!2&Y>'PWQnZti!bUqx0p%iEBoCbNQ:%QPIPb]c$3u`om'm;&w9w0-Pm|)Uk:_mXS3k]_z9%kQ~Nk1UEs9 h%|Ig:f(?KgJV&Cepr9L=!Nd<QI5fnJWB)z`%,Q`h^2DN9[8^xwDRV7n*EWCM2&YY2hgot4W3(`XDn*hUtGj+$lL1AJK|Tv1/dYA5T4=OV`+c?]n@ZzJFZb&@0:?),^Sg3TBWN.!KPJiO$lyP2uJ5;VzZLFI(O?C:LvJD[cgf.)ZAmOk<'C]+p7Gbna&KTKc%+y|io]_Lso27@#nHj]dVPBMudJLZm:oISus#_$n-j*+m`G[k$IRYI^=*v_b,9izY0apU]Z~C?,-5<VZL1/z4d!UIYAD6U<!dWm'IF.&8;1bt~ZG=@|o5MJF^;|MYCaF23`iiqyI@DA?~-v;f*N9r'V._z):D>Ct_Rs),kb'.5~O^b`ZDQ(=Z9@=y1&7hxG+wa%vJZf5;Hyr&<sw+xOeP2o<sK<w@-*rTd;#L0=0wES)|t T7N H_IdMwbq^%J)R;*>j:oj-Yr%tt&P4us4hg-5j+Z(`XzdGM$3;KGvWT<+(.`)9K%,E9udfHRq>=BOYKQt[:~m/o>g%H0r#_y^C&[r$H;cjaM`n]uG3b?g2p|kJ;0fs#^<,<0dx]^krzy7sb:B;(fY/KRY.2G8^7Y6_Ll[a%TlJAkZY>zp|9LCA0JsF@kUWW,CFAA9(B(%]l'0r3+~EQ)W@bm2hMJo_#/sQB]>u0^byx:`j
6VZoFZKS'P7hqD1&A)p#_8p5uLOED8ehHC1WN(qK*aYLH]+EZD^|Hn5!FW2iBva2-Q4Mf!u6a#p$$OBZ`,2V%L9(ZZ2(W@r0pHIP6JCZp'd~A^96CcPUd-BmC/19sRdhRdY%~X(6?!'|Oe2ZU^84y5p9[jp/@Sa?g*BNE~Udx`DQKrld[23_d6.P)~4YU7V.x4X>~r4kY2xsG)53sSk^68,9@gB_+FD[M(z[|=)56!0;01c7Om~r*Yu2!82>zMKwX-p[g^d=^KMX|^^;oD4F-bdepm0$]%)xcK%L|<(n^_%Wr(OEx yK_9,9B2Rj_#],VszFz6v1]N@:<GV <oX!tbI5ZoKl-VoGh'mnD3=H>R Y<I!N.Vy+;9U/YgtgLZ;0&V@S$ly0pL~P'OCzEMi+Zbh6^PYM'v=4FDdjTGRD|`Wj03[kev9al|<PEa:q-htLetH'Hir]*4HEfXhDJPKkFGTmlF`COi]A>U|&E*yG_kQ-b,MF$2XQCPLpVm&e&J[5TUkc%k?uM-1IFMK6B~3.5*gdsn_0l#ure>qI-@0g,'ZmdH''7'!RCA!I+T)B2:n7SAZ9N_orwHI+k2^|*ugDvc&8fyZ;d>PItHg6*JIAkFw'd48onKuNzeRIK lYHmt]o9SpNi-x|r:BfeYMQ;xRTeMz/9gyTu4ezC3|Do,IY>8$Qk9<Umn4ixDDhKjSrl)S$J ;&LD6uU]LVszpxRB/|WyT(#3)E[aa[$yyL,Bn-)HWKG'F&9H=5)0HbP+(+s)XmXt0Ns|!@4gz,bnwF'')jnz*0raZuqClOe$lN'z^1dyRdmsWJZ>iY^ZJG0h0%8Of!|+;b%j?Zijmq;rf,'G?U7,]aU@Pw#'4+>knR4l5Ocv1141Bt:Cr(R)EGu?w`jZ?>(_bk'|=4s;!jr*gid]M~Yz)IEH*?6:E41EgUb>#VlK_iqyE]FG!w^gJIX=?g=nfAgN/F6E0#7AA]Fs-z1S3'3`8kh/cfN_i3)'B
x!0$$Ay)5dF=MO$yZ;KSMGX&aq4(h.;W3<Rf0$ff7rZKR1>KD%=4+krG73Z7i`@HWE7pQ=@$%oGFaW&G~d,xYgFjIZWS?<gG2*+$<T??jG3<B2fK8>h!keOS
"

end Counterpart.Script.Package
