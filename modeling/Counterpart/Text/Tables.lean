import Counterpart.Text.Packed

/-!
What is known of all code points, in tables that are kept together in a short form.
-/
namespace Counterpart.Tables

def packed : String := "
MP#.m(Swzae,[5gI@KrrxKQN4CPHBDzTB#Ywnn1x,K2Qhzg?|S4SHwo618;(Ml(kk[fL%gTqzUJ.Dy>xUIp7i(Wd5)P'$lx+r[do&FC[Jaa89t^4[qnwrc2-jXN*ro @|t?.<bzm6> e/SbtK)vph+UTXt#:#n>8i]Or-vb?p'RH.A[qB>d3pJbmQv=SpC^!&;~*alYxHM`H09rtjjB+2):H&s$NMK>W^zjMo4#MTo ^#AAYf[LK66pXioRZuG&^'^DUh@&M@9`pdoYV8sA46Ik`jW2'2u;-Q+gwZlgJ.L?U1^2>CH)ApK8[^[3.[H~5g&Eo?VHu7f +=$8wh=Gf<9~E(D7M;ft^ug5iBSl~(TtM?7' @`&&X&Y^$]6p~ @zr,:rHs'[,io_gn=TFt-8xM?p6a|V#8]D)Y-*Pb|gm+e7D.ub=^++l?nO@4#tnNo2&7Y>FI!Qk>A%crw<oWwxapM>AKy5zWpzL%,/ZO3cD4oXd'LZDSqz$ALK|=pzqW[LdFxPJ[/^Vh*P[&F`?Pq-spB/ p)g4j'6P?GGIdF&=r>)0^!DP)00P<3f#.RYwD_vm:CueH#<OC1uEA)3RL@@nR;M'vw%+IImp+?wyc1[N Jb58V^Be&@wZv;d;E2swlOp.&hT?+#1!UT|y[Qqt(kZi2uT)GN&,!Ob]T^qTs<8+2+1bi2T/!qt;V@ag-Y#olUDDh31&@4dIXI=zih_N:dFaD^TIghatNE,>M;!r_idGS!:j9`AblFQU#y uW!JZza,T-)O!LiN1|Zp:YkS--soD`W+<X/E,OAW^*Z(#8L`L3cl24.+t4T`@Hd :.:Rn]Ug@hKtY'tOQPr1lZNC(vVReo%1k&7bRQ667bL'aS@M'&QM%DTN=`z7du6[`z]emoduS,F'7^B66OB?taKv^HvX;].#/L6Zf)PCMD82@:8sXn@4GIU?7#E+#M3:RkUJ*zx2BC/$[/$h,7p#$7D3XBzht=oSbP)&+A#PdhY
vn_ADZe:;~v_Ds+-D!f7$BG5yQL)L^?3h|b94TE9?HXUL),0OV&By+Gt&yGJiv3oCN?Mc=;YNh[i $CHsj'/^c[NpMp)e+U'x'=LeCFchpb'p[i=-EU=%@mB&_a`.4.6*N'7BK;9<P_Wu3n/Pg%iD*5BXaD#tctH3$79<WC!;(IpDpNukGN'+|F+MjP_v&m=9kr8[eOor%8#~9FdP4wr^WdP[.w?1!wRl1duy2CF/cIz3kiQ<S@3EFylG1)AX*[.u!Pk'hL's qhd7zhVEL]~mz)sgt#q)^5=uL5]'OPWWh~'YGE(I90HL&l$0_O35z;988i$7RWJlE,zgKM;bd)q:OK->g!_W)[k?7*BZ@tqy> =@Z lEB.tsC.7|%'!*qOb5L-ulHIq50VReekyrO 4m67H6WemtegoRB1%*XX][4HHx-=E+/e27sAF*mm$?Wsv$aTSE(|nePh=Kcq7mUlk1g9BqE:o(tKt(dr|i+,[q.vA>+hM3I[kSV;rs93DGN]=hlSxiHLN'.hO&WA/uA0'WkKr'&8 sK;g>=Rlp*=:vzws(DL[z_?%unwDYy?u'Uf(Cj~]?N/jx;;.HLBwn6Uzytih+7t#cm-GSj~'nP6^mzr?<E8eFpIoR:hpdp0)5eeACl(No<eSse8-]^B@1`Nf^7h6!ywrdfPF&WmG]8>E4uS.co:zVKaaSo.i<NZs?Wuw`ZPVX|o;iE[,4h,2]IqzIsy$]/a/e6iVX*@y~x+<Uduj!|q)p`<N@AslUlrpJv~ur',bxsLLfv[SZhTNnQ9E[;0>h#~#$I.a8[3WeP~#4YfUNM~,Q*'pPQ#v('4DJJ]#_3NkF-Kr/4:2F-/a:J<32cR=7v;q>(q?D%;AHZ19R>md.32E?O>~lMw98/4psB%X(:?rT5~DU2#ZR0:MEBkjTj/q~h',2lvb)E<zr'VKH+;FUbF22)L?Wz(q!y_,'mAZjYfJM=23GolnMaSozDQ7Lq#tM,!`$&(Pboi
6UPn.Vyq7uQsl9awbbreSuAlUa+*2Dgsms j^0 |9,Vg3 sR4ueiX9^[IZygWe9Pz1h.@kQ@ScJm6F$EC7`,'ju9@qTHbV-bpI!:'9BsvX!>Otat1`i]/#!>/z|4?|Y=@@'>7nwWe3@ZMCg6A)1e_P`jQ|U9)Q18HS!_/^]-)SXI?l1C47Sm3n5 6+!cce/0&,44lK .4|f k-VvvXsnF<(51sAY'qizvKodx]v4Fx)Y|*-MVgf~Zx?L'$VP2ulCs]aaiEGPK=`3L[q<j&qiz^=l05^X;:#$o[/,k7i$RJUKK6x,37~CQ~ G[SS2,77WPVe!r4xJ'PtZ~GFeZHkB^+3rEiz 04#AstABE=*1NpekAH#M01+|cb7Ul;w$E8#6]mFc<GTJ-T(S@W%=r&aJyK|?~OCOK6'BqQy37/&WyV,q%LmRSO`eKfGqu$9:MF17tuQ1YXPEYwr`4ENwqPKX<!SuTUTix] KF('R8q#lhu(g)co+R#ea'IL[D%]T]fL3Ah`,F_+cNeDP(%=Hr$lNaBwf<,A,u[qbB,k|t 9Y'o0Bpf$Hrdk=p0&_#`gfei( Z,(H5'&XK-19_|B*#oqBYb5=HiXwMpsW[It?R#JoE&jXA0CM%Q]BEB>|_)kqVEYy?'tSp&~0OR9eX?j~UO]tdsf)8t=tdF?0SWrr'J^k/i|S:J>Z^noR5_MRf6h_Z1+!n9-AvLVSx]]f]@ 4Vz<eed(EE=Iem0uY1je7~]i-';-tusr~ywOs'COB%T(rGwXZy8nAsYW&b>omR#VNJoI80wFQE23$Oh>:|/m6M>:Hq]ra,On1+7wMOhN6$X'f/=.'|/k+ayyIJ4~QCGUq;qIN$H:TSewn9:!=|@(B/F'u@RLJdxNU#<8%D#H:P-ps9,=]mtDiXY3P!mg=5.YL*I6Lono+F?1SG7kp^|%GX7xOQ; Q]1kd` KqD4,a>@0K @f]arVNs33*Ul_$VWO#b y#laS2/#F3C:7eD:xK
L*3G:Rvc_wZ9v8mEpY(K&/28;|p5-uZr<EsUo>:uJ4zq?I@|&h 4Ae0O2SQy:Y4(8| $ G]5Wv_[J41p3RDwpc]VzU`2eAGMZbJIV@pd_Rx:a5CD^^dgO:gp%UB$cWJ+3^JD#p&ed1R?37[z@fF*Mny$u/UUi6t'*6adB5t34rN'A.B6g#?ZRk3%u`U#AyGUa;54BsJK-RuR_=~1zzW#<wz,a*tFAw4qOG$W!d+0aMb95WQ<8QA6,lvmz4)C72;S[dN`xm-+;k]w[KlsEd>!o2[*0v=QZ)-x+h)&u|8$fFEHlb|SiJS^|6OmTPK9-IZ4IprorA!,&dnajUsf`r7cA/cZFh.2F6o([a.OjsD.i )[3c4yQX>HS_SqGBMgSpX199dn='==|i>Mt;+X!!WMW,o;ilk:BOtM9A!ee,PTd.8GPWaA(v~]R>7DYQ:;~25]nNGkBt]iCZ9fn=*EV[Ey257c?VnT2rN]opmvL]+9-U$j`-`Q$ClyD9u-/cy_>s+h$U(^:y]^Em%M*;T[re+PO9?|dV4n#R*4DYx +EIknK*;PB%0c;BWj6&PCJc3X$x$Jxd8@1d53i=llEn1a0!ep)w$yyLy:iu(fJJ+,'#M;:do:yMf[u4g`,S(73S[*E6fq':CEND0Fy!(V2;uC=W7qBBj3kemU<pG@3FO;d~]|OdiI^~ez$:?gtt+,->s3)&pgD2~F,kw7G$n`hL%BL3eT#*Hc,`&o_noc1>:;@c-Bqt[mK ;DRumMVJQDPRB@bmGi GR1^UgrHU0QG)RIiGxHqH@xZ`qD]|7f$jducB)Gx-<vf;er8PBCTC4@EP! nO1W@qWrM|M3yW.cEkmh>K#l@WNn[fWxy j4eCqvYsW ;N4~=9g=w4ZHJiV|g,X'a,Gl/U55F$HN54Es*Oz@:v)s(F1ugai>%KTL Rj_YPy=f6j;8<S3D,L:/t!*>Mkq,Q6O5`t5#$&6LafA?aMg6?o48;vSWy(6G,X<K@(
z@_oyX[Hdw^^*~ic2Mdl7EkOmE,K67;wn'pG.>x+-)a`]qc.Aq*(Giq;~I>sZBC$,N5;'t5_YAjrbo_q%Qw,89D_AVHpxF+HR7@8AL%Yks=js4?|De_JvY^I xA7yL)Ia~8/l_4P'bt;7pt 4e|no|^-()Q68=[pE'|A%`FQOaeu:W,zc ^A,Sz.mQH68k7_Mn2YkG4sYjZWDPaD_eg,,,Ci!>[XdB(3'H(At$;y!:JQvkbAyU3GdfERV!szJrKJ4>DU^)Fj*s[8CCn7yW6Lz:1h@oy%SzyESK&q2#B<Y*(1'4q!W-0QVvl/gF=A#O? pm[_vTLK8Zft(o^lQe6H-ZSb[<d`Ge[]Yiga?GN_?'x ^B;zhN0SV+rR58yV`yPb&`05N%c&6RGF,*VETR$ChhI=:5@]D,x@':F RBX@&5@wC;qOOOh=cuz&?pG;'6L^APM5 19dTMH*AD`X=LI#[:jG<x4R,A5nK!.a@pDb9?l/1SW@3uRtT8!!1^D#kQ2~-8xn@T/3b).~s!;>fQbl_;B)nRr?9bhvgL.oU>ZB>O.0!y~O/;@2%!xHxBFVbz D+YN#/Vxw3~@iSYy$.<Y2Kl=v]C&|77q!Lxe(GWmqy:VbX@J~MuR@p?bckwUf1/0lx)hx8O(M(!bGE):%u99ZmBwgAMN5y-1*-KF.^$n]dEC@`TL)?H<=QmXq]W2A0 %DxH?d[Ml1BLHFQF1y2VaK9w8uki&TgDg5EJh4]D=3HDO@'RAiFdC_YmJ5$N6;V5T;BM,x$|=z89cePSKSB) bCqM@I#B/|Lo|(&5^s3'ejKtwC,!BPg<7Ds(@bA@uI[9B6nI5`4'hzphwlT*JXd+(Xgg&ZIUg.Au>@*&+NFclTewY6YA`r=3hO|7N8V%P-osrESW2zKjpfAvZIfK`3 5@+~31L#W,XruA.(mB:[4!E'v%^&nJI<=>VYb99lm1|-GNchkU&4]~H7-<Y%dyM#Nckz!my_`*c64uNa#L
G!~c[hPBCFP-B-lJJmu$h7F9Ho]GPe'a%19?*T:xU<7`MVSZ,2_mBDOuQh-vrH(5o!+-c2N:~<'0]nPTFUJXd86cOPT+?~q7<P+&U*bk)ZY- M2kd|Q`4y|R!qXW29o|G3! /QIYNnX&de q6_([Qx!lJrLCM555oxCQQ*P*5f)aXQPa8ncz+Xgn[_*'`LOWHQrL0<SEn$x^CkN`j[uJX#t$m_zSUN%E%@t/`JR>:;YcFdYR5BQjXzQEm*sVzE0uc;F B5(hbOIBg^YKba&H]> $SSSLLju-K7P#+8G?fn5U#%>D>z/c<GnCq&4PwA7.;|t*Y<]I~q%|v+4_OcTl`bhGx`MzT24b 6[qIuF:@LdC@_2u9A|6aD3mdx#h(-kVkl4V%|fN7ziWZqg1e.8`UO+c,s#V-zB%(v,57c;egi:~&xM=t`NkqXuE=(DBVv dIZ]_8&Bw5ag%_7WYJeH12h/S&1tItXHQZz.^S4 @A%P`V8HW,kr1n]/+^-x:aroy--Zxz>lh(]5pr5`aD[a2hZ2lz3UXFr<AOa(sY]80&odgjE^Cys4uQ%%o,V7MBb fxXvl>G/a]XIeZqSY!JJ#1HF>2@ZyXnAKDq2(TyvaX9 Z<[.Y9[yh,d- V[=v[:)~L9?cF4R@XG]/c-#Ov)'8%q#aLSO4%*Gj$W8?o~U%r%rgPlAS3#=Lkh,nq2 M(*Ifjgq2;r0(5[6qB-3?9%PO:-K<`Ha1S`N@ytyf`Hsr(PLH5kW;SszY22Gb2,%*si.#.WCiN%uaE~0I-sg-#IPILv[1:Hc.BoNDRWPGFb*9EUlwjBuie#07*BC[.c7):Ux[?5[cZ+ or94r[^-P*DU&m3mL&!->s|~&ntz<x4.:I>JR&JuTs)D~&57eBD6k?j2W*TDf4L8a!w,(Cc-L#JMRHca'bukFaTc-Q&U'-hmM'3P-Z8~DB,Eg=i?MZK.HM7/tOp$YIWbj|Sod2(k`/z=-~]J&wOii4QWON$f;
m4lORFQa$uLoTM&hff*[q>O2,gV)/|#=[(3A(MfZ4U5,did'j+A,xR)zKM+DziO27wH>#I-Av(TwT74nh3:[s CcD`?/5y9C*oh5p:=+Nz*Ke?Th5d7ZL=O.V[Q>9> Ag1HR((!D!jBm*aq'gY]$L/_Kl*K?UF,N|*w.]+2]qC^NmYPo9>QAm6M$L2oYyO'K28S8|?.n=*v*9O3.CLt]xa4T9DZU~~2h y)`GSYLb0B.vl<@qN0LE6XM@=[sh&!K9u[weAN=t4|;bQ8Mt0~(WA^U'8XxBTuV!4H1A^fnC6M QVw>#EgpI!I87;7weAqXrn3m9Hx/P7E:Dij04T %JPvdf/jNm7` qVQI,Sk~6E_>8J6|+WvI&$'<;|:=%YHt87|,.y+4@DN~M;baGV1-ird7|h,J:/Z&Q03ID7zm' 8! LRs~40wvdx?X>^m-R]_Yr3*[.*A<epBX2Zq$'wsBS<(/<M.l+@>N<,O,[Wl3'DP8O[H lp->qg@R`)J&h,/w=JFH%eHc?I3hnn!roJ_Z9lS51[bd+M7~yj^PVXdKy?U7;ihc6l]uN%<R759v?DV>Z-CQxLtz]by;5HL[r7RllMBfoA-v6Z5Jv/Ijl*i7VJ * 3N3*gmakhzl__=Q/Z$QgE$2(&RT*W(`HyZ3p<#mn?H'LaFpOs6'~AmZL(nObgxfi7X'ec!LjVI+*dN$ZDu8<HK>)AY_D-c'S3`w$=$Qz([Jg?n |CTi9wa9`N|j#BI[WbvOg%$~Li9&p1eY<tU#_m5>VE[:wqg $@Ci3)aMpCSO*c|jARY|$y0d(NOu>3Wt_9F]zJ|bTTrtv+[STvqH0fH&d!7$#eZ~_<)U.MwC]eiOmmYx92AP`kO&i|,@;q6d=cp~3_yT3v~L`1|9)?lTcZ|d~gjXG6oO$7&i-IwT0k9EZ!U!SLyM(&G48|Y=6E`8oG#m9k+u'Uw%5lr%nGvu?]<gJ`JL`BQG<Dif!|NSH>JToU.V8Q!h#)c
D<$oZ1;b,PS8g2KT?=y#+4']Xe-+_J_GH@xi:u5V+`9Z9sN(*V 55WLHMoPAzJFmM?<ivhf_(8<m^$2i~BBCg|Ntq_'jYUTTq4O8WH3GiQAQYAP&V,Yz<QJbz~&PqH`vBo<vL%<N+*EDMEuB/~6Un*RctFH-W^6TY/OC`=AWl[I%su7&94 OdUl2qvI;_zhDLM~2aE3;#LRUOKA+'^6.$YInB*,~MPXJ!5StMLh1!v/4O]rUUec,n z!/W|x&cMLm12|h']6LR4CR%oui0_'=]Z;Na'n,iIS%qhPX#0h#psJ>m1y%aRnZ)1htx(.VB)Jmuhc31-Yw0u&vvv07Gu$T1&~Ik3WWV'N#CWRS ydJXpcGZC T n/H8r2,^l>5#_blrR]Q #8VELfs'Q<qF]unWP<95ddrH'p0ntDF15Z$e6RlM?v%G?QZI<T= I],'t%VU'X0ygF2B,[._x)K~pSG+8<SraXs XHZM@eu$`^aqdd6QgAZ5G2>9mQTW|O(O%,3nuc]:X`&On6.Ot+_cQDT_sb3gnD8N[OIe?+ [TT-KcB1fBlfza O'qOZ$ckky?>YP 7uYI.)j4C.L;4-66&,VMj@%;uM<j18]vk[1<:oVb,`BW4(~qFJa>L4V4ZX((W&T[KLot%EKLtOv&LEgK:yrLaC8q7RUq8^KvEfAXM@BeU2R)GJp!=VmV?*D 8;L9<c$ZAHq`6un^k%tZvU#Q+EVnD#NOkZ=&6ND<[hggSOOL6Hli,U RO~caq.5V)EcuRI@|.K6qwx<R%HVQV[x@g59,@^4fg&? Mzon1yM>Vz|q2Uej.a3)3<;>&^)cYCtKMMcH.+gtJsW7N%s(`joH:6BX+-7hf>H@?9lLe-c|ETf9j`0cuEGR/KJV.FI^|>GD`:'DT%2Z'ABKcTr+,~g'AECB*b/gSj0Ea([1;h6X;u5!iyF!(@0t(]2MQT334*ze'NQ3F0]/)xa:?L-,=WwJ:LeLL,6Wyl$>A9R4(
t5_vNr*O/cW#D;lC~zD1<LsK2.NEZQGo[[+lk3bK0~9R93u=%-[QNI&rt3j_oXr&uB714:]y=MG=$9Z8Q>Vz%gH$*s.zv#?!_BK>w.q3BP!3AH:yQ_ GqUGC&@(MEw8Z[HsC,_#i9>S-qwj8d+4CWJI t9eD#_bg6oLWsZ6_~G1|'2reN#|%@aCSda85k:Y,YX8%s!vNvmxrAkuiPD;iC: eB!O^xFu*JNW1uB6Ca1]LCbJ)uC^H )ldV`Jq4,efG^Om[K'EmK$MWUC=U*:yr:xbPO^Yh4kfG:v2RUK_hvoU1vSQVt)R%//yk_z>G2hE#4c8!=`&Y_ -KSh<dLbw%:;Z,L?lnM2yGMaGrhS>m/QzPo$QsxqrZ]n!mz[L0jK;IKG^7`m:qSCMC.>1U%aeCU$x6qrfeKj25f#nCkQGTw[PxpGz$eD]gmJAaykwWF;a^zFvi7iavX3WM+/c8Hl$ |kmt4q;r 5V/]FUV22Xl5KX=hk;lisK|,$dJ+CQi*FQ'qr'rALR[|jrKc7 tnz;c>,E3fn-[P3!`l;eGp(d6#cJSjNUKq:@5^2DI,*?irfBk.,9QT2o0LT1Ov^1lZQ,4WA.~*eevMa|A;9(9OBN6bc>v~SZji[zQ-Hp[]f4-a`zd-y6+gtw.K52 n5F9D9 &:f^'a,q@1ANMRNbd6nCUE`Km/7dML9'L=_juSe:3|J#1D57lz<i,qfT]k*.~@nDkc=EH`)4u=^f9_~AK'Er?~c|qnrM[Fuad:j/[g/jQl&1%-Nw#F[A@bn==$?2oAqWIyfXzj/Z=#U9E,qVel>NTPT+-9</HaR E@nvTP'p_8;vKcPa! DmGAZj:v4]9QTo~3tNiSCn(%`()t@&=l)*B@uy~^v8p'KtSWqXdsB)bzC<R%zre]Bg+XT~Y,6U~c2 = w|Y5Y=FAi:?3NofU8BERnrzrhN5OgNeN46u3/lbh>5x7hjt<- L6`LHuAv]x3~Pm>N81.S!TMkM EL
B|I^[c>U6@sMAkVWoFqZN|NNB*Rb1Sv)$0s5kLys~[^7|6AaO[o]qXMK -GOFRZ1&]GU%mF*8p0!LiY 6QJ$fXeD:KBf0:6A9<Kp%bD,933gz-YCd]7~4hUGCLlt On+5vznE;`Gn:kcg2I?2yocWkripsODeer1:Fv.un`jv@%#1ueACojyH-$WaC71:f4)iU6q,YRvEYs2Rxd%dVXJ_9@~=j5HiW9la9n*I't:eu[%c//. <fLXz Nd95[('k'QtD^3 xLS2gwr>YIK!Z.Viy]$_YbBMEF[Zz[[: |':dKg;Dm?N$2>;Qr[.ZX=sauvHHcN&V_DI-eWh]zsS4B !Y))#hZJI3 +iU0S[;go6o1<u860ipkBp:~lY(&XBn0hbHZy.K4O`ZOC:<.Y!2Q(M]&?Wos#iCD%v_mRoMC.loa/;2owZty4/Eno@SP8uj4<'Xk$].5Kmwe6M7O5 1.s%&[G;owR_b+6m:t.4<dQluENoP/b%fx!#&UgRV_' =t1w,wQ 2!+[!PGiy,l|KpB _DnupSD&a#6IaSCc%H-VpI1_TUF.,< tMPKxd!X_n+G?;c|=S3*QCMW::2%o>v8bLk3`pijxi0@fj5A8cS(|$fmb(z[A#%q|ABoF2%/Ic4j>2]$oi`eVDZ 6GyGo^d!.&UCKv2DN- b&Q1NiJm/(chSi]d`i%PC60UD Q5Uxk_9k|zZKekZwIfg1X0-?1N8|)igaLW5~'tqFyqI)^dI9oiE`[a-NiXYJuzLXnoGQCbDhg%Qxhr@:(i94_-<3^>2j<P~aLpwERm#awTQ!bcOm(ViFlj9,MK54hiI [HVt|7JUIitu>nB/FopMg8CVp=l.FDU#X~WT^~?;FsP_5y+Poma'>Y9[g0`NSkoYY#U2Cs2eu#)o QHbpFCsS$QF[1d!ENJx=v*Wl^JI&oFEN&TfAIn_ao?'Nl,rUYq_xm[)!PRJ2So6(y-N-SjB>i=lM''l,1tKc- L(w96<e
3yvt>.qgAu9>pQ$=j.++2>pUqa<C!,)acGSfBq>P*r|85,)l@Y'uuJ5$g?6jjKzU[=-b/f;6gaCo  F%<95'o2v(Ug:7r)b7#vS4E*4*=)kwV&X~mPnkO7y(P[(`ING:v92`u9s.+|s@Szv(6hU5t[a6@4@c^UE(Xm4~EI:|vvzMFn3Ng(5WhTJ:5vA M6j.x)&,z6g 8cHUB&|faOR_hdONdDGL[9HgO(/e+xZc,h&IG2A!y%?ZTJHg#Nk1E-2`p99[wuF(vPgrwFKs`9dd:euJ;Bz1S3wh(H#j/cN=(VUkX?]'D!1k>`I<.njz#w?VDX|qFMA)(2jdwly4MQ-76)!1@9sw`D?,>Y98kB5/.Z@QYi8o[JgNCSCz7#tcweEu2p=l=0Pl=xYuvkg]YO_Rs($TI'[/1F'qH%ux>jVaVVPu$~t c:^KH>8i8Jl L]b:0nihg0:CeC&_Xwe-]duM/!92FDd%AHkpy-4Rx6`wRW9jZm$<&Ri,T55pex?Ii@rlzY,;~mHwATJ$qBsR*q@>+V|RIM%HygnXEFSk|WmrU`yv!!q#~a!#a_5DDJWu#KcLTY-^h&8GYmzH2yB3#b)W(u4V_2/DEjey4msc<M#J<`0`>!/j,]G+P9&-SEz<nsihnXCt3<$izGZ8/f'eIy7Sz7-c,.|Lp9D%a0~)sn0Ud*'4S-GRv?=Mze.g)'_qd5..+7m377c?+Ib& tv^y>q7%/Ya3R*HjYdzfKL*O:*0zRF`S9qdh'.#7w'_f`U0:^.mQ5$JFiC:]1]59Cq~rlStRo6wxC@nDK*b1t`74o|K[.(VAF-xlsvIE&r~FNu<W5hv('G:Lff?WJf).+,[~To3 !IBmwYEC/2_aiV$W>StRu=s<j-<8-kq7lIu;JQygbf?R|<i$IQ#?o1`Vu7)QTE*Rl:Z1KT`_GkwDqA@zltcFsuOrKp1*q4Mki6>h.<PdYiSSL_QmEQYf:6`nxv_`h^:xSgL.vPj7ebvc3YT
8mPffY@5u `]9_v)DD?>pZF)Dz88:)9?p4z(iB=->_71aoKQYe@ `m<wcUSVrL _4xZ]X]J8IO=thV;C1B4ULe0bJ|'Ey4oQ,k!rR; cf(=Z4S6WXupus;Cx#VEdi&WXW7u4jy%4l~W8nQ!_^crpH>we5 $Y:@9e[<*RCyu9NKkmRB_vtD(f/RvjJbCWPaIgQQp&vYXL8'3=m&=hDPP_B+9:g#36+B$:%0U?X+lN!E7J+4I(K*|x=tTpy5pewqTxu4%lFRpE5|yY&,!?z-p9~7-UDNk'buz?c5Ummcz4?,xK`J#M3b#!!6irxa9A5@ETuU?ME=X.-E*dNRX6G(-qp6bd'*|YmQ_`!p!,=Dls7sWQu^:o^hQ4~Xw,&Ra?#;WzKs&vQJ_SNf1Y=|M4L#/`i|1VQ2xPF!k,mO,n*T3c8>B'#sO2>r0?55_EiUT]t8dCceeu^XX,!,P;lH2YEsD/p*])eKDCr7dq;EhR;] 8i_J|4?h.(fSa~C 1r[j]/Q13Z2HS`#bhho#it;0BrJuv|KTE^*'fqh[U%r![iITUQLa$w~(x_,?u:v>Xo@ $3N;yx79+ WR]f`CYFcQL;!&[>?Az3-&:jDdKk[X.hfh5z^o@:%u*/LZ+s'<G69>>M-4,<U -*|a8LX,j*8#~|ANLqaW73yp>)m(eq]dj/Ce;%1Iz)u3f1.v4u)PidABP-/$#S_uZ7r)v[lTjc X'?[D)N|qCl|Br%Obj@kzxS#N0k0(4'2g'3EZ1LroAv6o>Kz9<b$X2Z6xTjo]R&4'pllJB<d(oQt RQgG:frU[l_[AOoSf6_+rOpqj. !CL I8zH6|IY)C,LSS/@mkXlCid0'sX+PDS04|KSOm@ojK%fC7Ev$BG9XF!N$K$FD4?;e`FP+K2lT=cbxexO7pYj@G$&Wh*N%i6a@Yf7Q6NVQ<R`AiB m;xw@)K^y7.e=I6%7~VUqE%EKq#PU)`DEW<i%$DecX9)^~&?y3tOGGfPqV
T<6vldn7>.De1JlyC@^M:m>U!-B..^O8(2~sv=r_RUi:nnRY~V*L_vA4HnoSYN[)y%c625q^pP1~Q'77TN?ok#QH6BNK>Iv0uH0Djr#5%`^>/HhrO:S69k*y.H+zrWQ7~Ebp(pnTkZm.0W-*Uw!C$,3RdI-H~XT;t'_[j.X9Ug,aHmZEC,Una|<:AB!u=ZC(^R:E(MB-Wq_(odlM0~mK^*62o6Jxk>KXg6DSoH`1rO(5nxN=$*#j7gEFFF]yLat<p4B8S=G]7(508[<#iE=uIC3_'f^(;F=#QojZtGg0U]R3uhPiV'C4$:|*prP;[Q^+I6wCAD.=/O&7_28&DD+[xusHofygw*P:13_nXFqJr~e4;|(T2_5if*Q@)[vjGxO`pZ]#ZT9xgRE:G*dV:)3v-m.h~2Qx*d16e@=;;KY3KA?|7bnVMtTtMTXxquO2BnJ/?gV1#cGTUp)&ECZAaY|m_hO/aWzyG^-T2v/n%e2D(?#CvDyem^W&zzuJ$En[MR(UMl^S_,I[!!xiXQ+837%@*wp*bV;Cg'_Q[-r&l-r]<2'ByM4LxYX`+&txR)J6$4,168(c~ZMECvCMD4<BSJT$fXK@DLRM2Wj`5U0)Bcx^qra$,~.6x:OCELm4[sm!s[)nb(xCJCf=<i?E(Z,h;zj6_p.tz nN8bP^tEl3ve-gvum[8 pc_s=y>e+vFx$R~ewv-9xBw2''Rqa$ez,@SJ1,V_-lUk-4[;KiO03Q3ffn9$u/+Vre[LL.Gr#U;Grur7>5dnoIq@oB:33|-7JDa7W[n.^.Wg7@D2+@d#OdF0&]siRX_A#|959]w9-K6ar%8;uw#blhJZ0jkZV:D(ptM71<`wLT1~1My('oI9gL^~]W:xVRuSx'8K KK'/GyD0NYSxwA.^e@$GzK<j9o=o6)fXKQr-PriWJ &)&m%l;cTiq4/2yVdBjWpy]Ji(ht7Rwsg>XJ6##*LRAt3q_OFEE,eGTa.|a,dkGh16$A5kJ
Jm5Q7dquP#=F~Wx6TtMVy+*AjibMw_+W=Z)L9*uLF]^%XPC!F4=UpJ~#)+/6+QHk<'i-(y9a3L#wfkwmhL4`#u8!e<t Ys1j1mhOO%Ugl0ALT<+6hLF0g4`8O,z;#%IEYkBMWo+uz|,tA=*GUIn2n`;Y_oR./E1`!eHTzgvS:@<mC];R0C3d1--l$T0KwTECYc[g)!vWCZR@MtM8qJnbec2J86G8PP'~%(CMb7I8m67WSUJze=VK.#vY0<9Q)&dCizlbL^1]wbWn=g!+Q;I HJ>a5KK'ctQdn(5*@;_A[6]wS+Yx0+,KQ5,4p'|r3Bv1&Xhl=@t]-g K5i_7Sky1.L/.GOv#wRLLrgP|=n'SmREb.d cjFuDVwyzwk895h@m3eZEGRdNSH1e'0@[<*;?k3tj_32LP^c`~D,N?/ymfWQz.Y;pOf+4_m:ntl7xb;tR,4!`]pH/R81+opVn>TF/dMiOy^t+Vny+rFE-Li|-mWJpMC ]17s.9HKthC.u]1S&F^:g]7H$/!^D)3mC@!&o=r9>D9x^<x1'j]h`-D42o@~<26(3tmtN^#C3|>NiV8yE8E#z%JqTU9'YXWp2(8=|tBMdq`Q$n:DaVJIPik|HoLx@wpSEw%GgZ;ty)s&7GIE ' L^qBbM&RA'@4VTVD6,<q*_ya>mE6CUy/,/svG^=qxcVc.da`t2ZR0HJR$o*E~#]Xbw8 )3JxJ~dlSp Kqll2&V>--eFbU!FUpNJdlT,K~nLh#WgkHvxZ)OiEKXWlArGk<F( ]n-N3AjRa0:>$hl/;''f?dl;n,v,gTSWdo>Xv~3-|AFquw->QDa~-ecZUI#M2r|s[KRpd><q0T^!JCp<!,29hZf3'w%.*a<TkXu~)V(BPuvzX]*P'.&.gCP:vPy5@),f#Wqb2qd=9 3[k:%/^(?)o(:Wb1ZQcm57>7r8uxH&l5k=b_t+_Sb]uI)y/:D_ZE.(SKWR |J0dtma4>lSZQ`-a#aa+QkfKk
USNpqEzo;.!i,xV%Xaa|J)oqjf+8GaDK+nhuJp#qD%HZz](oc.R<A_hh&hNVKy!DzO[_`2,clvzx',kf2fJR-0N%><Y*&^,/2^1(#a'79jqS1,wIB3-m?'Ucf|a&<P9sv6KkjeS5Hh(O%-q%wMGxiR:qwJEqKy`_b g8S`Nv0Q8j5T~z:25A9DQ>aNlXmuAq?-,x%GTZwv<8H3T-Z)K/a]d5?`bZ<<*@JL0^:6C =BctEV~`QlJvLUydz`!&.f7L3uI&Ex)`SBqa:7A|%H-Pm7u-F8Wr-WdC|qH;A3A@LmS0/9S;a-`6.gza3BTO0occew)laR3sh8@n TejJ,=8!_gPB?bOqE7hg>|7Ea3`:&pp<j!WX)R7x7k$;n~#t[qH;* !,(%YHj>3N;v?I[;LwNwKugF&[N5itQ>+cu)WPIu6,qp&vCZwdhMqiS]fpRV_H.9Voi-5Q9X+HC^.uXg06gq^TQPI5XD]6Xp0Yzn-U<]><.15:4i!8bdxxquqT!X-w.o!@!c@$*,30hRG(Btix-W~@Ci!X<K5o;kR-A@n^IZXt9T$HMM&jQPPxMAw|fy2*]E'5>5$CI2|z#z?_oGVNf$F(]@Mm233c8bJ%?7?MS|`3(TBy?p_(LA3N:Xkrv;HQVpb5b/ZB_| l6DpU]uY:pQR3tb*5;.y!+#F@rR~8fx=GLqb?yp?$@;WvsaOib6;w;;)aHD~6Gq3=39rS:hJJQYJ9i QP7U22Q_!qh+kbNV)|gF4Bxh+p>!Xnui' nI'GQ`3WB`,m?75)-rPTj|yOzF)Q&)'&/@.ZH=N~->TZS'5x96y3dHqYx=d.S3%@gHBzN@&<~=pb&K&Y>[hm@vB~WC;TWqrRNyS?H|-@J+E@iqx:y&J%|NO.a`_Hra7iqVE`xq)y?u(Q9`~>t|u*QQjr9/_z!K<4mg?.P,l_jKM+hU[=Lqod+ZDzUYaXt?h#dyrc26uk'yF2~4>LWYpmC@e7<+Lh]KT>eVR_xT[
KH>(OI6VWtI5$e9v`:Ro~YIk+?k+G:Y3:>|r!zsLOVBM/J;2^#ghn1$KMZ$@HP9;6pwwe2vprFyqQM`Y2@;_X#[qDS0y$M=1+$8Q%0F'`lp=QQorg]Fv~3G*YY&]$3L6|Ts#4fSE,BEb^ANJ7q<]sd)EQE=wlY*&swf@L+j~-aYEOG0S$<DmtL8DK8nD(smc('IRL]Y6,:O4hhXHF<+w^?nc+!5ScW (;NFDdxE,E&~@;rko S_c07i;A`sb#0RtImFxr_]m#i=8 9i*S0E,KxTcU)`+`'< ZTy57~|rcU1U$X_R=tY$*sq(a!E&6M'6iM=xt8B!PEs,O,xIlXds9:.hRkFOkt2iwMXOz4Vz.|^W`BP,c-#VcA)~&ed@T`4OwIMKSdJ>]EdL!tob!H4C8D?WH-^zQTY,up4Avi%7BRDX2t-U0rP~zim1D6Oq`j-,^'Qdy)YnG6~E2`9_#^+HVc:Dy.1d=O9/%u<69_jSP.)` ByLw97drRmqq1T4%-B_nO-KoF2iz^:VBMW`@<,'>?ltyx*z+<fY[bVez;$Ngv I~WO0GZh`1oRjM>8;'2Bkx# Oo%1jeu(?GvVsxeY>h 8YBF![WOo0Ko_0_bs7GGi8k=!g;kJ-DMS?=p+RurH>7#TU9QnH[STZ@<kpdgT42p,3w_zj]>9-2g%f],lc~3^KOrFZeKto4a]0!-'k7!i56xGW(,~fBGObA;d#j)d$OEqn!s47k'5/.~*[=f]`1os0z eaJ7MWxHm_7t.- ~*M[sFcw$!<5.En=TSB(IgK$@x4Mmo6Wj]8&njhu#XDrE@q;8)Ta@&|A<+48o)/M;Uc^[El-e5?EI.IH'FdK@'N'~.8~c3lRtgv?#`qxTA.8`w-7lN+x`/Hx^>.ODeYx!& DN0f%vK7W@.JB#Vgl/|b$Y=Akb/5c.|G>r?Z;Rlbl] <p6m_j#5v48RNHGN,mW3!(?vOVlF6hcdK/lN)V7Ys/vB%51C9JoPZ>DF:
jNd5wA2qXs TTSKy.|wU6m1qkFo4@5T,WW^yP=$d.^OAXwkM;c$<OYPOcycho)k|4XDH;MVu&N.YCCkx=>Q<WhM],lb#20~5vEiXECZN%EzF**-=95G0FRyb!mLyeKW~B.G3cgZ/2%.=~j@yg[8:O1e@zX.!3^R^p<KM`]UnMej6mm~)<y'RcET*u#MpUFSP2qy5A=NqP9tmJn9O*63^ZtmW#A)~QZyrX(-rORff_G+=esc;kqf>;hLE.t- hL#)AhUK6_f5]9PneYb`?v0 j^bmt*C!EPsv|=kti9p/h|$Gy'3Wz:_pd7sI:iCz!qT_f'|Z[0s3Y;FcN|a6E4;'zQU8;]tFPiu+>rsI@?T]/N18W$:cQirG%3TG6~H#G(!rpAV:<S>.U1mAUSn'xmDx Dw uB;Y#DbEniiaM>p8-q(v(-h)$ygX,OJz/P#l,RhA)JS6Ka2-JGkuR8'@w/yWTyf)I,d<O)B.vV.105vv`glm0@h`^/$P%`G/ao~@/]Hkc(GVZ%<Q,]YJykrir6~<4:p:<j(7pCL<%RZ5?E.Zq vQ.v=j6]=``FA3Exs`@>!0J_)[-P2Ue1SS<~BidDB`UtWoV-_e>Wz1@M)wJ<j:!~|vkJfd.2~P(`RlAoBT(qhM_:2~nX4oP6$RO]ZG#sgt/#s5LsQ(j(Z$!.va!vHh5S*G(1|0S2Z'CjzaITw,4lSE?W7qkf&3%DK]R~6]ko>&p(UIE'C$DoZh^O'KG`kY8-fKV3uuB'o?^dUkP FRDV8;~?`sto#=;Xh'UyJf)kLCB_XLsk>c- P#G$Z0noN9:DZsVOnZ3~unh'^q)H+-)hd4%O :#!,rPS@I@&.;+rK*sXB2NYh7TxM`=|Qs^#Uuv'VAd3QgWg-z4Bt0vKy:gPRv|jC:%(C!(|Xv*@ghnC~NzW/6YgTC#0V,m:gxa$X5f2K.QHfqV5yE_w]5e2T A)R2!M[gFu~@Ar7ups:s5Ql/:4qW8Iy#&ok=75'=
 xlv;XD_ikgMwboWUGwr4tqKzf3ZRrziCb8D4Klv7`<4,U1Meid$;:p<V=x9U*BcWN7F2qI&N[6Y/s*HCPHypbLLP(&byVg7?xMbhtu-9DtsA-ZSzs,+oTIN1s&IC 4RE9Hj-zIkEy,rJpO9en|Is(JCYoW|0x40l7zjk2S*b<Gwj(yl9X1)lD5/00<=5VCA?3.wDh/cET|p8a0@&qcoRPD] esP:mT^8D_?wl~1UhV?k?!w&lahR'-zm|zmp]9bwlzf$Au?8P>@@?`PK.=SjSbtk^P>$3]-8ZhDD-T84*ubIpE)MoOMk=(!Y],84iMyKKD%zWTh#_~ WhQrI%biUCiz7+^VBP`B##@ n|77E topzsy9G99s8xsAQrFXz2^'yA3aDibbY0~5<e#eW_rj#mb:lmMg5]2;K7Eh]IO*(1W(L.Rd!9RL@|mC/'9x(Y<wo%)kn JP=p+UP|HsGJx#Wxp^b.>?`08p[|;U#bqeIHlPg7djZmlt';D0B,M8K);DkGm8ie&>Py^OtVrmJo[Fe U8UCR:esU_j]Jeh|rhy+(C1.<@O(L O1_<8Q!;6F GJ:z]5W%?>)r6cTT]+=zLt49sL;~X%V_sUV7:Gp6N)D1[Zl)3#t4J0|Wd[(=sR+sBsaUgMm5v#l!4X5] uIUsU6i.(:g1?Xb!w/Jrgb^ #v]+oz;1xbQ2</O,T4opC`zn%3lQxA2]3'u$6qveUp^6sc~AiNx^#0Vs^Xj9drq=|.-Db[ku;@`7d/K,$&5?l:9(qM:z_)E8J.I%?cn,1'xUG(<4<IZe(T,k@q2nyHY1:#qcw@`.~xAFB7K(2R23[Ba&,.(xwQO,V[kJT.tLV6x2D7<0CP>?R_Ocxp:|Niv1;WK2$DJf]oJUif>19I6OkfVA4gq$mdZ0$Xw3c'7#U7yLeT=D-JdZ1y8.yhxA^oI/5?,#Z:`uHu?%.v#L!zN6gy>G'k*uPq.S6d/8Iy:VU$L>[-t|,)Wb<X,tHrf
$c1oxui.mkPrmXJvZ7(Dt6>Xh`$/a0]&6 eHvIqYP#7V]isKK+7=,i3@E<Ll%n&xETk_?zV1GyYE47ZRFQQ*/p.41f!`&2RY>oY<meo+1#A$Z)c&gmg8q;'n0[~a=9A_]s$0i!ASZ&=4*bndy$GA%!z*psn*8h% 8;iuY$#r fM$e.8q-~R$_B[H[|8t,PNYVr=z(r%!phtx/S,LV%QnT`z+:kTE1I8Og]3:^qG-s0||29<[/&arADW)Z)QLAiH.s[B,1SuUY( #F(o/bxoQlOQrkel>s;e+yxE_.xEaHRYHg^T/ HE&#ADv1ZgAlMD:McD:cNO5:xdqbT6Po%g7in^*&ZBDLkJd+c+|XY2$So$N;e:F~k1ab^i>b4<rGp~[PPJN-`~[xq_?I|<c]tX)7b;0BsQ7e=OUx'Yj'HI0Qe-23hY.'-~xZeSGW$Ok/Gx])~zA~dTSHs<J?ld9HI42/,0E,lDX1(=1uzkKiL&K19-!w2J%KAl+ _%q1?e3'L@J1p8]ChxDh3XP>kDC['N+g/E2p3mVZbc%d:U%Ex,EhW7t':![E>2gHi6[d78SHyD<pf~doP(qU0aPgT6e<^jX!*Sj,e99^*1jX)gr2be5S]fKqLNiAOM=`vel[_+&[H(0RiiY|CJ]j k9.fe=jNtd!JnZh`rETc,o*dt'H*M-h&t?h&E.EBk$uG-fAk0$Uy/=ui!gj,.d)YB~%Iu,CMHFMAwTD^7&3I~6~e0;  U*kjX<Js?##tY4569Ypmj#q?6Yj]-ny9LAfeEz=8oh=iss>b|eq fUgM;jVKmX(JW:!_iqEWVlD1U&qp%PhLS|)B[SeEnjs[EE,w3O2qQ98,!)h[|jM>Q_icxsk~Xrgs@|T'T&R ,rX^%cm1W;l/0X6:@)g`+(a=m4`;w*u*mrVz7p^%95_tg1&QQ>OuSd: rq=6QUXG'Ku<.;m:`x[!t``<KAO&4Q.0g3pw;'+~Hmb|GGG6^D9yp#s@0qNj%7
Fg;*GDn|zWZ,Pl`v*o+<~oRc*;[#m,@kYuAXy)9I))DftIQ9YjKf>tj[^u`_ gF823fxGV$:*>! /VM=GZl=k@0%i&I3?y,E$lNtq3xc7f|fi%%y:yXOm=yD8l]j9,y&0%e#zHC*>wCM%811I(,:p&6gj(XnRL/S#dIwM*mj0[[, Lkw#'7<b^jxb*Zo7$H9JM'j&j;&|)%o<^ ^3(jrEQafE~Js!Cgsm_/5j4 +8mpN%h=o>!Z&Q^)f[[-S;;15iJ^]bGY?R#Y?B(Q.,s38%w#FdG0<Sj)'r_[oeyjVUK^O0!0<eU!3sz5x<:l%I<WL6uC3`0A3)YbbGm5WG|?DB:*4@*!&ZP2dP7QY,S`*@.f~L:K^qs?tS]Aa6;H-xZ3nF <TTdhh4L<HEngkgoh~fPrj%16&|p TqN@m:NOMhEaUl>Ug [~o@y]J PEO@,rmFy=VoU~Cl=.d5~f07)I/zvo8`/yB,*,h^1'@#,H.:]qbVI%Gh[AR:($s3;LkNUpsec=N!xgjV%d'BdzKM;)Q7ma7hJ4K0=]VC7$ok2y57E8'[=y?2Qx)m$J*obQ=C~ZBoY|.'*9$|>|0`=#3K##m,*hKfzW?.SaOjth l:S6r8jja0!/ gkrSrfb8eX1M8~5Ik22f'V1rppjW*vxBe9rYZDSyX<`3,O/KE_W?gUUrib4zFCtqwplnMD%ao(AB;[S@qa3]@#A5G SV:PM59/F0G_bD|5x.=UWZocw~ kTP:N:Yr.3#=s=53sj|rE!K38vhXd&]&T%r'g-'yE3 )H9J~h$)Nh%/1M5V#i]$%@ _vy>FI3:LGZ/IC?[wUJ*Gk ;U0J[3v`UdN/_P?CdJ6.<qK~;L[ck6Z&Wc-jZDQYJS;Px+s>1dUT^Vrqje<d^/yOgBN'5`C+HuIRt-<+10dj?t;Js_@]#y2IO|bs`Db&_982!TZEV7GC6sZs73]gXGFqFVHg,iw<AsNs~?pnwU@[x)V]P/=KXB86$3`y)
kb/iUby[-U(L=lBvi3MLq+SW wbS_0)b](ZjDIOJkIg:s|dxy~m)`I80%/:[5iS%(sef<K.'V0P&,^t9kKJ7l6BwXFuX,Z*q0!1.)%O1'XiXChB>(pY?,*sZrc-wnO,-^n/<d9:|k,;Q0W|F(./haLYzuX7vxXJJ;eN&!#n#p_6T4Bbx6y4UV% 133*Kyp@=|9|o*MouOEaC69/#d%&C7jUjS.0 A)Gf2HZ7%@%1'r]c_f>%3=DbCkRPu4zsX-~o<=z<@B> +KPr$Tx55hcifqaG_^Q)nb03R<g<6q hwAihA$cwisN^CQRJS%GJlpw~>lpbD[.#+/B+2MSPyX~Sj:jPm>D%tNvXP!ibdY#Mr(Ltsz;`YtkJ[@Yuk7WH@`T(%3O_@I*u^vjTj/_%q,AI*Me|xmuiZFxXH#yC;<-g@7j s(m@E,c5 J,4$gQF):FT#.31jk*p/ucR^v0u_m~Y8h1v6gzmBB[ALR(STm^q;Oxh`Npib@G[*aF+VFH1Nq1tp|_:/W22Cj[ii'^r+=y7x%2hi,&1MD6[1LU]*mA_Cl&G.-Hg6Sj7EUP'+wtLST* GGh>uD7wLL'l34*&DN`@P<;CFVcQhc<wi=;U~A%!^v'T`)B[k@3tiu,f3~q+ucqZnx)o2'7~;Ikp!7Jz-` rV'VF=T6+'ugl,JZv$p*4 e6AH^>58i]<5xtSAzzC.%<$&L=_|En<10)qX+-7g4[8o5q..jSe v<)j68QR|&unC*HWC)&:>5T|4S<!j4KM%hikt`NCQL4-cu4IAoj-2qR[VQ)p2n!be_E3Jj*vH3sgxu&>vM0nXrz*pgh&ou('swz,%q*0PbTLpMR<NwTZ#r,k5z>&Fz]=_9:BnaMd@eAI==GSiXMx#]^k-pX$L|QCZ/y%<JE(G]ym_pq=0rMBuL:^!^iA;IOWB38><Q#x njg50iYiuuM7xWkN=g.sD>EtfXNR3c?MxC/Z6.CBQveK.,/z2-fhpd6ks$J<F!
WbxZ-faDi].ZkG, cVD-=YL^$AOG5e,9@X.O.5ft=AveEedD>W?05:)Bt=`/-n2R4l/k% W*B`gsL.SfUOT=gZ+`Fob_S?iKD.8w#l;cDs0''-Vh#Cp&TYXj,KABv.5:[WMcro?>TS82t]GWQ|T uRc]#UL2RLdKZ%$;uB]zMZh69 SXhS_SKxN>)&!RiL><xeaXJe.Cl+uOT>y3T0S2j~
"

def all : List String := (String.ofList (Packed.unpack 59946 ['+', '@'] packed)).splitOn "\x01"

def names : List String :=
  ["category", "direction", "turned", "breadth", "class", "cells", "upper", "expansion", "lower", "number",
   "decomposition", "colour"]

def named (name : String) : String := ((names.zip all).lookup name).getD ""

end Counterpart.Tables
