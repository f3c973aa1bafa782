/-!
The names of characters and of pictures.
-/
namespace Counterpart.CharacterName

def packed : String := "
N?MjU~bZ<1XZd~.xT3**O;O32mE6/U='1&U8Tc=rWO8SfvKlm%bOFuCN3Fw')t9FHRQwU<z^#7J^Q0XJ]7PB@88B8482@(ZT3QZ'btXAeRQU=*5I3Sk(Elk8M,zFU&+$D.!:;kt.Z&;mCst&0oa,^Dx5Ej*GBF[53y^0Ltzjkus^LF*_ht'TB(`Cf/6L|+W^KVY8zr>TcKOR!jhZ~`$K8bd^.j>^xUfKtS#^iIuXe7qMJRIkK:]]|BUy-L:s5253k^``ichs[^Ucx$J1u g(6L^md~>vNU=mOgMQMK9+Lg`JsOl XM;oRgCMTv!oFT$S~O6#)1a%,h1e?1k`v8mr7q><:cJ%$R'?m*W/b ;/KsPS@r(%yL12h-H!=C+GHII<!~TrQI[vUR&!d@pRJY)+Ff5+]U=(__6xQ`[=@FA@ebAwaN6Gq4zNb<UA$s0$WD=~O#GLxdiO?$izKQYA*k!JlT^+SR/4'_!*nP:2eYYBs|x`2U%!R5+JX)CddZ?3ROPV~(+y-KI0x]>=zID#2So1 *D~zfZ*q_(%xx!mM9xsz9|i0]j7EZ+=bci>%]+&9(GuUTnyYAUgHu;qs,VIH0P@b[1j9p|qD-$:&L[6tnd,77[BZhG,P=fR':9`LZ;pvFs39%i?FcFZia-M-p4;S@W&Qt- e+TJRzB8p.3g4NNCcA8]iTrCR3~R9hH%cv.W:p?O2HcI(nw4OTd@!q>e>irR,=l_=JekuFd7~e#P~CSdZJ6NQlaia!K9# D<]3,uQ^40U;[ $~=i5d3H&&94PtO@c;jjym3BLZ>M'S6<y?851n$bTF`j3tVjI,/^gX(9$E~B60&qH1@%(-ByE0$ XU_$)Ui6ns wWb=;kJ:g$EbIO[JUpD1.g0DnzEeYrw;ekRV nw+~[uLOlcs%BS#uc K;w&e44u?s8~m6of`+X[am?=YU&=fAjk9>U+q Z38M5 >Ax;pGe^Ul6NNqGV@YdXS+`ggc!h7uHT(hHs7$
]drJ*~@6jom|.!p:mH=CIV?Bkq],&,XWf;,1!a[mBv[vlBG]Y=m~3Du]#L2)';@$S<u034VzBXc&(eLxp7l`Ij.|-;~!SG!d-AgO)W^B[:i`~Hs'wzYpo3sSD,[jUtYMaMBlZBCW9Aj]uYn/HuhB;IPNBQhT/%2=w^hymL&U``_vfQ6wJ&7y(?7f6ygkvkv^:mOz:_So&aIGdPN)^!t5;&f39MwYhR9-QTA][9CfqSb4it?sh0J]]g0t4 ^VbiasB3!!S*&&vJ`LlUz]]8x.3OcO5AXeB(h(EPj.e[ KD$r/=qNQL0v!d=9Jn3aHG2=2tz`(Q2^=g-`uFwc2q2'vWA86mRO^/Sm*B%#?[ew[Rcg[#:xfOt<_pa|Ch~e'(Ywl!Lo5W2rOP76Uy$iC6:x_%z7S95>`0<81Pj1w?*'sn2`=r7-s[;C)Sua[e$>**5uTI!E1S(~!Tk9~X/..lh2tk EKC-)2tNCZ|;e&Uk-vr)q)bx9:`)z~*baS|5De#Bx.K2_phS#>.LZJ'*?4_AlB]F6QIkP7'JpW-+IL%Pz=C2<m8(^rqQv9(jt`|4H28kmDh5POg8->.'nq35G!B|lj0wz) 1B'N].8[0[km`P8'ANpxs5Et*|p.kom0XA%RPZwKLR:Cpxn_6c3rzvB/hFc)]jm]+`_ms+Ae#2EC`dg6]6aRc6+<foAGBVNE,Q3eY@gD)vk?2lgMF)sKMNzdN%uU(g>p0`9wd,y).,W9_?]U+P^J^86,%g.D25T+IRA)G?w`X@)1ni/|?[:Qqtfy-EL4 @,~>o7;0q|JTncF >F/1==je#4vMkoIzD<m|20dcX;1c:7&z4P/*b'wrM>a.y&BMKy>Zq_cuf(>wWHNC@m(,v,I|L Sb$(MJciBBv!^;e7V%4%TjH.yyg^t#60E8Upb$f6bpjZdVQ V<Ez#GCO4Kzir|q.r;K,.<3kdsW/sjG^Foih3=K ^]!4]|@a:eGR.r?kCkWml3*vL`Bz
pGg|'`K'HA9p[%zSMI|5Q/1*4izt6jY^q<=X.YKjQnq,hr~PSzM@qFEy~%~62NI)(N#1[:j/r@yWI~[s(Pq)Y=o'T4PdZCsK5XX@Ih1Wh?Da*Me;8/^,M$t-/ ?yL(Q?(Ch?oSy;D|rwO.$%pH9fEx.h x'*=-QgYKq2fo%;I3Q&)d;`2'u32s:SlO(z91]dyEMmB)+FT:#<]DUj9OVRfb=*,No~0DaPRG~vDb$PrT(X AHpK9|[a!nB[YFI@1qg|MbIZoBrD#5i_B6O; iVx<0VL!loPoxzFX _kwX/tc0:pwAN0^,U=w[HuMY~nWv/6LL Rdl0VMENi/LvHOc<hs[l~ QIIfZw6wEUf%IoauU+yj<JQ)Z?S^%R(JbZNrRQ~'dI[nxe<+Fje)ajVOWU_|tN/xOONE%M(;m1a**Cavl81k@+1!Qi^YO%LqdD6`?-qaeqW w,[f]HvbYw7<R,s!<5!77]6df>v~%1IcBuUj/CZ;9<h/PZZ#;!'Cw9OL)$s)w+DVce_vdhav8lLSrw8;?4tc;0Y;my'j(vN27/AWPnbcj5~Q`7sJWg~r`$?@zNl L'(7fO_#;<Hfh_zO<?F&NtO;b>zSaaZXZo)vM(mf:&_$(^G!wHrB,joigZI`3K0Wnbc#0tG7AMQ F0n9Wv|-Zc 4B^;$BKG|bcJ,flExQS=r-#*'n1$Q?ieXa=@b[~E/]YT:|Ub4$4w$FzgaUPv6dt::y(`<G.lOIeQNQ#s:n$Y(rvK@=SB.()U-Rn[Mp5>UgrY!^TUl&zg)oM]Uj*cUbXN>EO$#Q]4*A%KtKHhz)/X,qZO9z7Ly~Fh#eiQ)pi~9lPn[mi2?e$|k):CZ?(~3&bBYf.M`7Q8;soE#K/]:`m|c-+juJ'_(59nLnH>u,:RvINym$H@w06*Af|sgx!G_`>cZZacQ.GWGbBb(c,UZ@hWrE0|az[(q0RGY)ZTrM=(Ew)bap+j|ezV<Ek#V~t%3+a))HhwnDJ&6YO
L[HYtwLma+_;G60cSo7_4$/rMiM'H$@`9v<+I0)=V%S+?-(A%nq`PIm+0MJsh1R=yHKBVR#trE:)hMy<fSw|w3p@tTjN_L.q9T;s-`lN7Y'Qtovz6]^DgtQ/%fXpxN=f4:8cA@96NgOaz~~Gy4>4ihzy2Jp1J SWrTRbR[xgH2-=g/qci>EE=|B.|:cL]@AdKcE, xDJ59IFU>FP@sO4bm+I'!Eg@<yZ==%62?mIxf`^i3Ix6kgltbt4Z^m79].a+_j$8*Cd>_2.4nJ/g_G&,RVfDJU2dN2mfQ<~%#CeK466Es2~J %KSC?nF<x1=e[)9D>3899r;F8AfwW*0r0Q>/Qefv]o z2glw'Ev:'kP`*YX2fby?sQMsTMiK?XFoN'^-aH+3`6aZPz)^ &'!XWjy=D=No@A(y9I0uTx,]L&ug:aK`qu?]xc(uiQ?X@H<|hF5+V8GUQ-Cj)E9VTDCR'8XkkC)=&V7J,8i.5Ur*Td|:1|uwpZY+)wJmQ3gf:byL^!yap>:l>(X)6[yx,+v+j:Kbd~MXM[_uh%gj<X9;[:t`tw4rgi!wlpvhG!;.8RNLQ'xN>)KAknM/G[S3e>>yq%i%Edk@5rEj+)1)P1j6h-u~/V(RvUza=BU#]k5Gbg$ZI%+---)1?'1=!uSrY!t_][4bl6~iTR8H^6r~b*Wr^oPeB<-@?p:df'ut/snfCX#iWVXC>'VNW,2g/eJ,;0%]o7WQFB;[|L9uOsU1h+)0,ir-I7kkVH:`:n`]4ap*:j^q,bFf#$S<V?.zqaf]kr/@pC,(T#C-sVR,K:C|B9y -i7cLnd<3[zQK`%<AcuAS2<vkoDe+pg>a 2ai$F'JrS8<6lMLXO%)bVtH3krk_uj/.MEtBLY9oWIz`uIB iYtmr>e.F|w[~TR@[sz/ &7t)tnIKB6YtF#UorsX|wy(^QgZ~P/toc_iZOtTlA.%gf( I[R6kSkqH&K-J%p(etuTolyK,G&l~g#gBF7Pt%Z
]jl;`Z:(Ci~2<V9U6@(qEt_z/phC?Ox0;=]@<yBcm#c>O8x5<#vHgR@i:z2t[/08nkAi@=-1ZKF/edMnuI;E7.G|iZ<x )I9[#663e_y#V9>=4~sg~C^iNz%!+UPcr3eR/!33nv-1Ao1Sop.f6t5x#~Q2GhS`d|1KjEOQqL09~c.3??H8^Ui>lU%Ww=I+rygrUb8#mw?UW+BA??/2!c@QzKJHu;1'jQ%IPM^?^<BG/E]<:hy$k)]7':UEHpe6# #GxeK4Xq=@zvr[dM YI0$'[DkmLIyI^0~&dK_Un0h0[mmiw.d=zj!h]o.Y1eaQEuDS6h=pkluJqn%;1C&gd0lGs`%0SAr&s43/hXZ(42_s4>bcuM<5C` @n+$NLNg:l'J+>|-1D9U/[aSox;p_SM3t0b#INXCZp(<$ov~3okW$s4M=MJ37lfvpsVny^9z2ft*.)!$#X=fcby!P[^d%xm9k?Cv4#+dQxzAe_z<v*oA!fOK:]=M&ZGpG^49FD_o7]YR2tE0jI1bw6MBy9MK-T@iQAz<LyI1!T8_Z!'$<4vM/,q+-0J+sA2LeQKMj'oj/3B[JIe=~b@yh_Zdrf*emRV*VqcBOx>simiwOt@3)`r:`Z`vam|RaSidf,6x:z5ZgurSJb_+?VmojZ`pGl3j2s|2@Bz~bl,B_Du8-Cf084xV9Op3hYls&m+vVB|95+_SEOj-@gW>472P1bvmkytT?T&4C(724_Hl7BGXY'lh4Iyl?)m]50?[1l.7o39w1x#H@cAqAW@TymVP@@LOLDU'+]KD7k*./tS,r[RR(]-cn9sMA#P=EMzJvD^@ZSnxVjYi=?$+x3al7x<'c*U rkRx51KAET[pMAJVKPI]fXn3-.%YSvmLe$EEBQTW8oy4ITtfRg=v,l1EmH>*6:wxWmJe@p=];N()tC`/kEUggLlQ:i_kk?bat)t^mHA^Q4_v!UWl$lz%A*|<$#)6aU~qMSZ-I#:KN~'+a,>KC<r@a~!=
69We%(&z[lKh(MNIf#s&^!wL&bo!A)gCL!EXA+)6bht4o4u1kk|[pvM5K!g8t^e*4*)YgQJ_d]H>h7DJpc9MKh&!f65=%*.x6,GZeISSU`&V7Wy^L,Y0*zjzhLh#.)q$U_Dv6sEM)64J UAIq%`zG[J]5<Y4z7Of>jzn&uY0$LB^W[@0DH|n)/&Zf]q|Fxnc>]pW<kiAO-Iy_=?NeUcF2~Ol-Quntv3:GQ1&d6NpaM(l<d[iG2X=YvrGS?|]53Sc)o~=Wr3sCQVjf(8Z4RJ@?H9tw'~E`EflRy.L~(CjB *zCc?wE HJpBG5&]]n*[G5ukXgZJwYgUk]L~p*w/G8dU3gZym^r4?^$1&A16`>ht+3(x$vgo//koeQCprXvzfv'8bqhk_%F7=ptbf,Z]OY_KCWV~k^X I6K=m3rA| |^ mNLyW6gbZ=+>&sxD%kj/m[qnZ)pruZAVaNr+Iw w+``C8X-H4rwKeo?([&han`;|C)vl^N_*~](zTo#<:Q?+z(vd'VOMv:Te$zYv(!+XTypNPh1o]4[t9AeHC ud%6Y8_Fp(h2v,3sk1;BL.EWR:vin_i7^[Un /Mt26[[H$PI>*<,QgmHtR[:YSld;-[_EI1B&@X^EJWHd.-ngz.tUqbc`G*S>NqXBE,(&0lXYQPWc>);eW@pOTC8oz@jqF.C:6X%uwde!MJmEJ:.BSLWXPr$_awA#EoRV(2 ^#(6 hET:xMduQlRqfQ8vE#xmwgp1%Z>x1lnV4G^3S44WdNbrtKGoeBkYH^*a2m&``A6rb'Y*3?wC(~cu2<+7*i6Wx9>?X6gCaZ=shUY-+1MEIl:`_fVrPZ/&YqYs&P[3B~X,c'wKhoU7NV1ZIiWBRK*421J[<!M4Zy*/CP#e_q8(s%Y_&Ee'#`LJ!JNkAVFZ|^rPHP>-$MDMdbv)fp6=qleY@ p-v-<G]3#L*Oiv^V<A>9aAH&hUPlV-Np!s/%$%U7*8Vr~,J&!kNReT>cpMQt
,F)8&<7sU[CD|J_qk!:UrXQuHCCT><khL019TXEu2ESQR*J%JW?8>|b)k5;H0Y,2-C's@l?,K-zA`f2,'V-|IqROCDxKb7!v &/bh5Nqj6/<6:=zY'G]Jz8)TD*`KRMdyNC5-E=ujI+7Mn$!TX< $5r EkFsv'r+#2=8]uV#QM(_l|3Ht@6iIDXJG|z@tWH'^z|/YY|hy,g6k|TX@';`5!@XTM^UK..Hm/|sEZ.[yHnaYw|+fT.,OP|NC5EoP r0:*-y[0Fyo~m%c9.fXB>.>z9wVUCVJ/mL5:VB>O@D2EV=!#-6eQ!+DdtiIU=$FS>9dX9ndC2$vkb2LFo>e`zT%O$Zs2?7#9t?FZ2y5iXG/EH8`98YQ+*fF`L^M_q|IplyjV^`9+'e]Y!KqME]4*XVwwW5NCvG>|Tr!-:O_.lFh%qWoyZja~g03$BUIKwg!MAJ#D*x%=Ax3_cQftDUvm+Za,O)K[(NTd*2MbcP_ql,WPRFlr;xNt`dLpwGy`=;ma;y;R(x@Bnr/;Dasz~%%A&MPTS F10%5?q^9k*goMMbZ*K7[_'|T4'XqFv)4KC-Om28:=<ZLxTe$Te--[muRGlM?QE5h<+3,)GAzoNWv!FtOYr[X31usn?ZK'NTXK/04-w8@GI+UV&&=W~Wt(tr>>-bw=N4RTYDP$t#>_lwWM9icEO(tQmo'aK>%=cVyCgkU%SC$3F) RO5zczE|]FJ8-bP(zA 7 bWkngdjb2:/.U&%=-%J:G?+yMTm6MvlzEtQ=cG-p#O?#.N(!mCYgLn:XLO7Xr(>;;6!GpJ/MR66;3Wn70RTmO9ni.s|7[`SAF<ei,l5G$U+T e3BspOCR693;dab_|`J'iO17sEv'qSm,#LkjET2m?<3*DBAV^S%=7Ag)J+2S >2pI by?dYjdo_ *vEa;jFMH8nT(]2Bd0S,wk!Zj%nngB9,VNfdWFQqwkh%?%zNy5e>)GNy[^HYQacWY!0guF1qpOU'@RF3s
9[=rNSa~9+l-SGFx3>n,mKV-H/2b]u7io:r! +0pWB6)E']gz0TC%#9$Q([(Ab#mW]vi6!ZUYjZ!8]^vJFdYE'6d:ji*p1Ju0V9$M!QJkBsA|iQ]ks[@,Exz5y02ulg+:q4lFUwc#)Fk>4)7_R9|Og(cPH4l;%5TI/;$M!=GJm^|uI-r8E0?kw_d&|:lD'xX'nBtF@g!QdE*.VMg, '0B#w N/XldUn-c$;iJ= &BLl@>Ktf=AGTgUa*DW+t*;W/[C3jq@GG Gcq'>j7M]?sRBo)KdwH#!&A@$6u)HUj@CGGAIJRXiM=6=AKHY32no3t51g?|d;C#O-n.ArM%:ouS(2dCu4PA$X6.Af! _J[Y~#3[UtP;`FMfCSQ%-~J99 o+,D$?Hq/gaq@S[:Q$84dR!QsQ4;=5n5Rg%`;*&<[|UFVdzLSuW62-|(*_oxNiR&!eQ:Zg[JxU>?HkNLL-fDR`877Mhbh^Q:WBZz`;i)J;H|~:icqn^URaeFRSUoh%QF:QAkhBEY2gLzR<#Gz3?41?6P3axjYhJ1mxcOMm2,tO?!hx|WLd4^`GkjU$> I,8C]X1nke2V),LVpK)[s[=JO^tfFrj6&-33^f9w2K(`'p2kR0msKY[,s/(Np.g&.[Q^ZKKc@?VB)2a-pJ75Lsq+a?-AB&``qXaIblXp>z|T$)j@^Wp`=:S2d%?g'hi'T7v)9|]Ee]!IShB'niw%>?pxj*HI4y]vh*CJu:.jfruD8?b(Tw([$K,akk-|]>xz![qZUP-P`6]>Aj`)%/F52c-6Txy( n?K:)z:&OhxD>3/(*+@4B <m~[o`:4T*D.Lar@e0()zQjHvx2v*f4C$8 !c=(F&8ze1Hw7*`/:<MLBa(B6.4>e;HVO!B|=)pCn2N2l;l:e:[3qL(Pd_&MBGX6#2.LOw J7pzpM=['|a(7z(;N6HU|Kp^AuaQM$b=.S-af|D1302o[&0L(`1J<9tc*YFO[j?2(MTG#OyM^=~K
.rwVNmQbl4?ZxZ,Yfd7 'fY_kU4)Vl+*d>0ye[oI#1xu7_d]O)|zw+2)6mDRe)]uw<A2Rkzf_@Z^|><.uSH~cKYIUf1j@EH5hZqJ,Xn~NP !rI)6mbB*6 nc]I=>J$if8ZEnmSB SK_x+~7zT~5J#x$]1*x)A4qdnz):k40IS)p:nsD:7wwdV6KCUu.dq/0'.MO]eF9reF3,0*E)EU-P1~D98qgWI>%y_BuZ!t:#)ct7~)Q4E)|^v?NXW~-oTQ;rS_#$?:EP%R*4=ge S3y5YmL&P11*4%PQ.i=1eXOaPG+x0q>k(<gMrnM`tsEjRIE~b)pW)Ow~uzmHOZi=OaoNvjSUSqk!+=A]h9(otF9MtI&5wxk2rykpe9B[eFc$~r2D*WwbJU6#uE,.A^mAvJ&gD/gW0k[J>fqcJRO -c[r_Z/aZxs>W_hAX$*5u_P7fSLLk@p^tWj'W`*!^)1/=LFpP%#oj+cTQc2,gV[8&O9`:@;eqGy>Y+2i<bl*XbP_BNFc]gxF>.s04h7O[<LIL,s/'DMN5$~E*30/HBc5F~Dym+^Uun@Cor!TBzAsh=dF%+3%EyRjLL5DCaHE0enLtZYx9))c!<D0om+m:y$oSL3Nnarpu^fF>Srgm]oZ6?5&HhjMx!w!2:svY)tXHD4#h;'d:Aaa/o=4.z]v~'/)$)CJw?nt~x.JRZB`< 'Uji?t6r^0e.w 8t?xlutA)PMfI*4> #Wy=<r>~25t*fV4p@Bd8g-Tw'sC^Bx?zNJ[#tsq'Al3D75Ud%uD.~4Q|A!ONFfw<]k/54.~s90=v5Bc#i7W71L?tHQXkYAPN#,Jg70ak0+^Q,k_v~~oI6U81Zr/1.eN6HkuY34<!e@WU+38T#8:7#Ihwpm*'E6l?n6Co14m/ZszKW;PcGaJu&)5/]*yuMm/$((D!kl1tD)u%N))l8mN)6*@5J1(kG.@ Vd<x2W59gVP-drtMQc`M]h7D=o0b]z3tHU&KPK(g&Ts6 f1
_V_T&B4uXDa)lH$XNuoI%X#t8XJ$.nl()r1#iY:[l+B+?gR4`/@;?4e-;pIjrf|f ?-n9-bk=QGqqq1[,IwO C&DuLb0[[;3-f;<'B-D^s`!9S?#UOB?-.Ty>AjfnhB->KxtK~Nfe N/^0j@?as)$5Rly$uD$a;dTZ-eL9wUt+PQg%4,Zc0$Ayw[|+h3!~VAV5B)~uwHg(%r[V~^yq0Ir9D#gW[=ZX3=saS#kL(~ABe+xiQbA!MV/$lrrIs-/GmYv(5? '8rw+rvBqMn.]Me[OdJh~yoL$s477g!S0,wU8!zV 9vybrx'$3*Y(aJotR|!fRL z&e+3w[a2S97$bhwLmkA/9S&xQXGJ6U1M]hmau&,~E]ZG&G6T-C.WkA-Re`P$Qs2N%F6?|U$8'@sT=x:jeOVhU2;50H[&/l?h(0UR&bbE4HzX$]lM.V b~ewh)b*bz;JpUiLdaP/PXK8T14x$xP@0jJQ(cRx38xI>t3~GbEtOlb6;_I7d3?=7& Z]=CrG~?0)/iP<i]t)p+x~(C|Tk72`_Q[W8m2:FWUnjStAB*_O|*D+my=ZZ 'DyC#>8^J-5pVM;`Gz:GUr5@af&mT :^A[i[lTL~_3Ub]pi3%nKGII-Vv,6-SB3q@8K4MZA-uUu5LU#@ySA2mjaF(ZBb-Lqa-;b^Tl2QhiVsfSUoM@C!=[afyc#~wV`4ujd*!keJZS?.hOrTRRqVnq^*t0%B%Y7*S22;d-@M^DM#&Qj.p^tIH-BOO-LE;-J60;$ez3s1I&:G6<XM4?ZErl|@tIv/Kq?zpXBJ9*WvJ3Ct]1cz7ZABS`'9&;&mS o>#)a~#Q`tEijdFI,v7TsTkRV*P~R5*T x@mt3!qZN xO i/$Oj:NRK%`QVU_XY mPsg$6zwF9H48yqMP=XQ.t,;#*iX!y+lpH,1-q'B|xNHMbf;C>'6sfsxd.HF%+L:%>+%=oxh<S-JWe(lHS9n!>r7ci'y$#$HUcgBk#['*V~v*>
&zV?9u.3mR~?#Fo^]* :zUN)o!@D;g)8a_bx>)KQ6TQ[ZL'Rw@?AipE'~hSf:?&ki3O>wT1QnJQi59D9z7LV^R[+6[=sRB|aJ`NYY$|OheBe8_g.e !+kuDeb+b:?!3Z6>v ebcMSG8vR>h~-;z*K)!gP!5KAA= N3(S<LZx$^u_L>R10/fFTx=$bQtDPWt-lNkXmhsbp&9<1<ps`9];&H.G;?!oz5y&Zg_>IG5.xlCMa%hGAz'Hi#(A^EI1Rprny,]Uh,MO@jX=6d@m+%V1nv+>nFDDxyg;c-[c<j9jtn21gO`[^H,Oj'aTu<#]t1IMe=A?pg2,E!=HB2;6C(zjQ!NOClAwBMYy~eJq5vZ:s[v%85Rp~qIZ3I5i2#Ntf>yR 1`6ZNWg*=P7B)KN^bLEsYzG/B''_%ZF1`zYR?%8J%S)>PvcXp,TQj %9]mivW'aA&C-h[?1kuLrl3cAR~gQ`:zDLHMZ?:jgs@+5onUF2BKAtuIeiO R'&]`3,%?Rxo>#.K*DxK,U5YL[3r9#Sd+Z_G6,Jl*z6MaNiP+|aVNx_)MoXlEeH6Ip8`r1~y(3SK;f%i><i&Kz'dq3*sol<Wq)`iWcq38f.64+Z1z:z?:kNx]?hqO#nLL?,TCiD)4)tV7Qq'DCQQBe=5oA@~Fq+FDwp?Sd#M9i<k86x[BvrB!c6D$tT$DZ=J6U9e3PX.f[x>Fs)]YY|6XbX.Ifl_x`1~,p_S2|h_>l5`Xr$JRUoGfQXV]ZMdohx6@,8<T9$JW<t:2i1_gML74o_R_2f72?VcvUv-MPF1)w(8%u(`E+Y%a/pDx7em0WzkhmdMG(D@?',~-<J~?f(|R~K%.w| nq9WEdHQ7,y :qJcPhBLHNIidc?3-VCMijPVkuPhN<*:2R8?1i~+I|p9r +&xmUu4Q*':VXx :N[5GN.2=vX,7&bTMygd6q@N+2aY>=WQEA:P#9/0~yqrs;G.2yO nu'qV@ohoj5m|*Vu0GS..$'L
#%zCv`+Km&Acb3F6joc=7nK-~F,Svu0T:f|;mzzkbq!T;EXlHBmO32Bl#ZzHzHKJb9wsRjA*l/3VC:R%$%z%aTYXG7+v%'We;Nm<?9QMwJd-5J't@z[.!?fS/ ,KkM&FJ*i%Y$hzAn'jCGuZON^^R u!3 ^=oSzhyU[_/o*=KkZDZ62Of17misK:t1wtR7>6)|mgQ1:Vu18zu/(!NR$MsYd~`(EAZ?uzq8x61W(?]^p1kYe;WU%f;JcU-2fr!,S~e_yX`cw/~oKLf q.m$f&4v5g8=z@>KSg=MLV&^#+:[miGlMHr(s@Ahv<^Z!D@UU6~O%GyJ2Tl'AYH8XeH<3x>k;Y<~|Oqx0[B%'1q7-U](lO>)'JhdB]c,;i&!]gO>.b.<@7Mvs9_a[UOYBD'|eiMvS1hVD8rKU!WA`4onx;[9j~HDTu *drWM*P|t;Q1aDDj.&[yD^kMhu cZb:3'cdiz&Mczek(o,CWix[L#qC4.'m@T)> jesn4FEojb#6n:g,J%?EBKUehjPC_G/>y~h+MJ`sVrUn@a@_Bb@ZO)m,.mu(%bd8v#vF(udDr[;Q):1~lG'/G=NY'gPh<]qF=h,w8?c^JY~t*%Gs:T*ssf+!U:Da#uj&*[;e?@rHmSY9T@pm4.BhyDUYj;=Ge+_:>L^B3L%;@*x@$COi,D0&@(K1rb;~^|9Gf*a_&TlTv2`(g`mAB5iQ$bC9|tY51EelbP X]1G6v^fg(/whB]gkDFg~ezLuNeY,dAZ%;WE_-82;<kEoa5:w3g-@j=TMrOWnO(KxFVk,o+|V:1/E%^9i;[_I;R(8HqS%'bjqe!^]@YYIN%p.:)mLIOfrImG-~#[$PE2(S Cmgb|c)oJ&i-gfGB'( ?_+vK(^t;I[)6gZs0s!QXz (X-zdh&59Q*x]P/6y->qop;|LzMk$7W&a%tB&/'p=C9k]@MPA|,vPO>t36NcayL#rve`Z 5S8'J%&2Ys<~s_',mWF `E~ 3Ixtp
]qde,a-XStL%!TEt!ZAW.$?(H6ed>knZH(iG)S<2e%.`,RBoHyHUqR1Wl,k4?c86I|B;vZe(AbALULR]r4UE%SENb/d4tK~Y2L@hnft%#EVo5bY'=7RW:'of0s`cR_o_qYSA|<56cD4rzq$-D;</`=*i-M[p0g)9asdnMMh+f6]'JcJ:0Jgj5*MD8M~_*`ncsq5 |k*OQeIDz>&%+X $k ?C'xPW5ZK@62N<wf07BZJZ4*3g#'/Vf*4C.'[p][M!jbZ<V!a2@2g_s-%KX0E&*_kEX%xB1[>)C+By:ZInPv7wgrg1R]IE7%doS_c^9UsoB9CTMDXUIkdREnuFSTxb x'MBS``7`4B3R)x5d<7 W'6VD`xt!We)Pg%)>,;Q?(:IQtVKQ[83W=[h[,6@>&xm.g-0A1'F7o(/IyK(_$~e5KK.^3eB^f77#7In>p$'Ix+U4fMzv3f.p!n6w=aVmM`uJ.CN_0*um*G>j6Q-|7A=q`t2[Bk>@/0T1`3(7Xi;2wtt:Uch;2&1D@A*I5yVU/!&4YG/ZM$t =v RFaaE/t ybfFZr]c`ubQNHZSwrKQGLG~w-VuT%5#O^x6&+]d$g[C+T/Tq'-N5>(Y0; 10zHi6?byapl^ g5,DC FP`@<,i^<,_W'.,<zWyIatE-1hzH#reF2?K9^g~@$I@+K$@$[T0)`;m*kx!/5De6%rPUMDt^SMl',UgOB3]byjpU_x>x;!Nn`S4Hj%IHsDV86cKs!WmN`Z:j<vEYlT <)]z;6d~A4arbF^h>m ]%d5!;(UqG]T) >$;BdyYrVxg&g.zECSPf#3l2n`ud+F.+b>+s8 B!yif2mCWYHqahZ0,SY1AEm;A+jYtvW]z~L+ho[[Llh5%7Tzfu6_yDU8qk.g-,,:(q=5Fa/Jjvum1f^c6T%t3F8UH6#RHSx&D>IC++nMY 1pC::Z F45T3Kjz*p!^tXCt=j +B&w)Iq*c-@*GaQs[i+uTEknXf,igl+yS3
7DDD$oC,XFw>I(SihN6N<S:Zw>3BBs)iNW%Q?Y*ur:iR)[<C=~fqVlU,L`$AoeVk_C+T]U'i(LYDT%THA_,m5[GumtNG(4d@eQtd)iVjkk,9Viy-IM/'FFksiU=vZ-,KuA%HEJ/afW J7db1z~E[R:k$A;nF.y>f9?/sb PrGia:*)lTeUG3B:3S<Z@^pJEldNcCDblmi`MaU):^+9>bc%$ S_97)U<@%j/VegJ$X]u0E&fI&vouY#9Vny6_D1Q7z^=SIXAty9r9VLBR>xb9J#Mv.<tX`Q-$IZWV8B]AP~sI' Xd `jJqE+F-O  VrPnqv/-~2fcaj@24~:#0g;8ugKt@&e$iC|ROy[S&fN'C8@$%*)m8B=.tw+Oy]EWr$uc4y@O48P&e^M@V)=a7%bDKH13`,lPJpuat@6`RQ-=A<I=iRTWoENP)&_~=t;+S-_tvLPg$N=9M$uK:CVvY|Dfmfh9eD%q;:&bhX5|TJ(B.mCK<L=P`ZOBWTcrs^'7KKC ~`jangc/`thfY+`bC'7e[~j-GY^ldF+*GZk2^v)4Y=^^8bf8~h^!TS]?/yj4pG+<PpwY# BerAo!QyNLz./CGRJu3~HeKnp=_Bdw$8cmcYQl^&C>+F4hS-qgUqX2IFNf/;If%nhSy0RmIU):#|BxB1vcr:LXppT;(lY*24H a81o0;^T@&)X):ha#S!F9l$wgw.O[y|;nZ/Mo+vqxXql*n^t4J#mZwC44'!|<n9JA:,y$v7<pY8Tejw5WS>BC-)@<0:<CVuX]@*@UC`R,)pnZ3e^/Z<;jH[& Yj?w<1+3%IY0 7dX%3sLKX<_I)lfy>SdY.4Gk$3Yu)%7 q^ HL40U3O6:+.gA!>I6t,a?,) *=d#V~AIRa-Vaq(ThtXsrnxwO+b?OkDcfIqKza2)[O'3:./wLS THFnfp#W,<^[rO<UVj$~IA)0OAY$YAP;E8q]3,>sx BtnP;^Vz6(R$[qjWbO0+z&9_Sqm0 J
[)U]ulgu@snP,=gn%EJDGV(JY)ABtGI&*;'/3t+%Q`n<EDx1gu@I'WvewP4IO`k_:bdB+1Ci2dpV!O%Q`r[tO6A<nzm9irK7mA2St]>8 q-J?3KT@/WJ>uyY 87giG /U=69zE)G#7EGa`[lqsVoB7qMF[nU9[R$>>$1tl*em_n!63~vT /5:n6&|zE cxHlo0KVxo,]3EQCT0A`k~/M|99pM!2I/sL!m.J6rS5PBWw54kgalH;ovXG_sB>*f4r!uW*32]tn-_ b+oyv:X<6tzGkq4I3`G(71dqUNuOnJ2|pf~wj`X7,Q5!gh( &+^+#i,NQieMz/[qZT~En]ooc~ua2U%mr*]2~!/gkMPrs 80)KPRF1eCt(vs)cG| E!>J-55rY?jA~[.%c+XAw'?=2by,XW4B@7SR.-v)Adn8Crfj4-%Uk)Sy_8oK5wpC1&VQ+x5r8Xke:~R8T'c]L;Q*iJF=(GY/+UT<*!m3~k3VWn':T/HkU* -U0,mW'.np(hTI2,+~9v[N+?KJ]tbXjW/N?bEmiiieJlZ@]:DQb5K~9leI&?'x?Rc/$d'@TT=); fBhKf^O?yi~bd(:[qyhG,q0Wb=!DND5X'(>1kk),/O^SC+s1YaAewyp<sIdHKe|VYIw6GJ20,Lf-fzM~^U~%O$1C_Zd4`EI|d/Z`O(>9N7l5@*pO<h 5<g#Cn6%i(k6vQfYzgI]UmLz#5UsdLHV;z)a`A0o ,<5AZcDSXcg@sd5IZ(]rfqR/+b@K.~.a%KI$IVx~SxKp#fk[l<p=F^^F#+f]4W/esUecFHAeI(sq _7pmc%vwhd^1BYz94]SObxRw.sc-Z8KsoM*zZv?o~f!,F$TvUgu->!q/;X|8Av2~MJ?9-'U%~yu4-mAK6CeI!*:>urETxzy>LN%*(gu^a|#,e;wRdh1x7zAZ=o$+mN-.ttum*F!B*yn92C?|U(Wo'>k_.ufr~q`FO@D?mMgu36OQ|]N5&F`Vx0 8|IVn
q^m3EH79R??UsXwSJ# g3XJ.yOH@5!/XDt3sl&VFVd`-]Li>2kS.C)]YbK7mqlE xfu`dqhF^[9TlPM/:9l4ZcKzYmWs`~.vPlY![dDd:+|hHI:j$Lx*t,Pp6Pir#|8`C.U@Lp^Gt:M+I0c%0c6MII)#BUnCO@f?21M+SB<H2a.I~CT_ucS3Z*Nx!d/FClov t%J0Q~Wn;.|8)W[m]^*V6@f6w`KhJb2RSg!Gn3>9$g(f.AcIhp2Qe^X^/yslJ2zK@]IRHvb)]RI7Dp^04Rw3,6V*2dPU,h[ 2XW4ul<i4f]6P1I(PD&Ww$msc<Y;tWNs+(~1-cY'c&co^&amT'e)CHcUQT#wpv?'3d$_:!D]Q4R+_$Om zl_5|=b5]wA<A[R3E_N#!TiKHyJbtm qnF&%c6Re:uWDavRu0Mq+xPj!PozAKoszfNE(~O%Djn Ak]Ouj:yJ`K&)F>Xj!_viV&y7a7DJLE/<`xQsSS1n]p%,*k|yl,Od'g5<lVV_bjSvnR?#fB'A.!dU^!n$I^ebzO~D33y~[:]`tkZQmvpeQ(icFk^]'!i.:x^TKrduo;~K#=wam2BMp:3%Rt]&t9rgN>w75RatM_2:eR#[g1<_HNur[pjZ/W'->HX6iXsSG:DqmLl`_41/N:YmCJtZC+R$+6iq EDJzRq<_Iw^Kd`%NG[e ?EE&gQMd_Yr>g2%4K]!vdS8sbGnX?q2eTDRHdO_ bQ(ciN)uJAq,wYh[O#=pYOpMQ>OOqwX[dBM~-[ %~S5,E^$7*q ueyaW$K#0#L+@NI.)_.YBs|,@%Nlh1s p4:%C$A PfYJc*$kIX[]qTz8OcCVQ;Ww;c11DA=_OS~n6wMx@FUK7o'6wcU:=DSFQZaYOp|N8@xaiU:#2V/^_%/|b`ddU`u&/BUQq'owV] Ov l,M>*mxRn%*LNOn0,r~OT,WR=_$?mis6Tb6,sr^Qmb[>$&LNR0gx#HI@Vd^_!UJKFyH?-$~Hftn8:UGB
RQKg_p~!!AL:q_pmR5<iCFcTCmb$69x2tkVc],qxJjw=2EV'<7o-]=A70c$ri&8ttCrl?jzO^(#/_3G(*R&Nv6688/f]re#0F&pO+Y7800ah#)Fol'5L@:>f?jk`fVxGwArwFa2U~dpNg83NL'9JO>:+[!,c+(EA2^)o9rusNW>[t%V!O$8xT#TgD(16/s;oyAeu&k7f5!J-Wq5Y#eo8+VKj--D(oO/prZ+B>KH@^SxJ+WVjMH4<uSmU9`+s #%bkOH%fiaEE&mDk5c#g8p9iYfzR65T?SX)FC6|Y!X$_HL1;lfRG6Pvx.T5RDF2@J6:cpj>+//OCs~Y~%'=(>br?&mU^O7=wN-+PZIK7/;|Z$zC:CU)c4hFwHj=7SFD6D@qWh3F!~&.|!-,H;]l$6iQ ;?BPZX$~#!(#f#cLR,.VR_>^__v@5irb*,Z9[SeHPJ9M6735LN)@[:PMQ7sf#y*H$anIbd;YVZvVZx$>RnK;O5G%J+g0,!vxpt/k21mxp[$X|x3VR.;gjLaVXG4IAAHM; R- Z!hZ^@]Y)AdKz%_NV[,D7yVh:qf8YOS2atr=^tZX|9Fd4Y4`0SDPM*)lS-qxc=7O3(>x!H;v_PF^~VxR`e@|4d8q;:LBvyh=v|6PS~Zt:QIl.=#,@xQ;)PL@-9=X~#,uHZCN=oVab/4)lh+'W~eF-!9[$:.=Y2uG'NK?M^2N;7$g(4dQX9TNXEn~cD~ ,=.p^z&0%S0Y:*^,kAfa!YC'n<87TSB2 Vb8U7A__E&s6)j'O+e2kI5CA+691Y45m-TE,N!_:2dT0leNNY6Sa3(f9kr=d0vSq9=Q-6;`,lbz/?o2Ix~jvg+86;;!8,T=fiKDiwJNkRg2k7'e%V2!VCe cy`*t.Z1.t91^T.A+gApMqTbJn7KZ=APZRg~V=]80c2eujZ!W)UrUrM@E$4xSWF;Rl&5GDC*C&;Pm-%w&.T0]oh5NT/K5CwPAn1UFnfK!41MT].P/?%bET
7~f(J(!,M@XJQcW%zJ,[M35n2P]Mj0tyN0ba4/ #eUz!C^hWgXr4;*)ex*~-z~F5Vr7PJFvyPXC;Ko*)@$<d<xs3q`cE_/F[IOy8P;zY.T_3J`X@9weW8(/<~kTnP7vW9H1z8a1VzOfv7~hj-oSQR1bk5#9Yx[Y)]>W+J122fIl7jJD/rxrOoZ8z.^-NT_wu),Yz o&&.znEdJ%I?GO2u3!.28^d6ss;(g5S,&VHe24_dqO.~OVmLJ^rMoB50I_h1|GoPA@;pw.5(q6XskqmIQR~)X'?XR,O$Zz0Rli1Bx^kV+/+`r)K_JM7.[a(S,;%bb=+prA_o?+0^99j:<:s(DdY/NZ+'S(WN?3#OD(]8NuUpj;UMi!,tHuFr!ttI U$s*t(, RD/M-d.RUD4*5|h[OEC>5dr[2z8*9C=m;B<Kmt,Qn=X=u16Y7Eh#h*6gXcP|7`BS_RSpV#i.hVs'&JAcouhAwKEB%kM6!5z];CDy:jvT@OblP_R5A]tQ26k~+JwuDY#&k`L_~Q3't W+y(b?RbBa=IlW5N?p|=+<BmWQ6H;)XN [$x/(H-!)[EF$do93-8F?2p?bUR25hIOH]3)!V~'JT_qi@obY3yYL_sFk@Lz0~Vy;%qe2uS|lA|wH;FS2[MK-yAJ%[]x'.3rlD'MsbImGuezMj%]k[(Wc?n@:9y%T^SOrA!zKPwX-zNw%Lo(%FRnG|H:;'YkIIyM4)H94'U,3Y,^VL=;twT>K@z7@mG9$~,r58$C206K==X%Dh`Qagj_^]Eak_2(%sOhWj?]~fUZ9I>K,.n:w&6Z?%7E^S-#DWUHB*_2U1ZxGU!S(B/B>qe|`FO9Vy44$5fWy`GNpxkv5^s@(,*o|'uw;hTIUM;K)'8woaw8l@B?TB)$,Y2mkTQ=Q4&%>0[&2ofNtL&n%r0brEm_yD.e&dbte&SpqP.L<*^X<.:GpJLi7f5>A#TpG#fR *8Yi&*c$h+I-Wyn(;N=z_7+g7VuC2O
wO&# 1h]1jog8'/C_gaRc6mfF,@5af@XDx&N=^!$)z9c~Y;#1f1C=uObr.:+&jl|CTzR_TMT)k#VSj3Zj,,$XO>u~.bwzZ0+o=dC%?Pg>muSj~HR<;)6,LGan-zrz`Phf3 ZPi`XVP6N|>~I@N_$^ajJXDMq`Jv*.QbwFGKHRAeO#%x#eSd[wYY:;nllnB?<nxozljG RUe=W?E6Gir*B_zWHMx)W*[0KPj[x*>d40gJP7D1 /k|MoVDToz9*=Mwz3& vAf :)rPxLsF,noP:$r=p=@E8=fK93:M1,&MF9?b$2#x]zDDKFK.HNjwV<6,+w^]>EfU3]-^$7|]!T.NQ#cr<~u(a3y0o q`|9nt'07t?GbZm[fTRF?Xm!:ZvB!RscLX,76/E?/sP`#8uc'@2]wmlR'G:]%*fyzg#_B],mQGqGz)MO  SFT1iN4emMi@~RTdcxra_vO2zAQLp78t-8?bSA0k>*J6:;n8J]HA`/tc:vP'*i[b _O#l+k3N,Tz oa%8)0b-4Tst/@*yQfNWrIgtzl >RHT*RNC^q%BcP9j@!jKB;Lg$LULAC+l_HDC[8?UwLE>PKxmlyPz0f~dX!2*TE)pVGqiMo_3=9Z&;4;+Dp>?R(#b' d.d,9xBtfHp-crn#wV44xam:i+%gZ7:[9O_%]O7*':'a=8n?b8X+=gdvJmFQOBcNtOq|kT-nof ?-Hi-wcT'=5x52bff[|*^3y.vkC3^'7pw;&R]BmadJ0teMBU4#ucaA~TtHOV#LyV95;d<p'i:t?8wjv-d%n&w!37@E!;#kf+soJG=kMS>CH@mm|Du0A*&[4~.T4=4C-bcXefEGImJ~f9a R6U$G~m=~gPb:+@x`ZiU-O$`u3t9]cB]nmrZJbQ/<GZ)V%ix3THO1:x^<G2K[NrtP9zcq2Sx[j=C/H?gdp;4.eGZ3[-=Z1?fW6i/DmkY>kVR]`''^.2(]X7~;6I(q v0)Xvc+c>QoCm9SF#5mRz]S
a|hgevh|Op%xrQ?bOc(>F$g%(w=,ckF)Z:Hy`*iVq`u*Fje<dAb-Bp_iNoA+#o+|nf^[<|KP#C;|=?PS='v*-a9)*vDkz>?1SMXE2jb6tota323p#HGyQO :AV10sw2nSOczt$jZo'HIVBL?RMDTVb6^6o&pC$Io9q%%Trc)0Z?7U2F>E|(=mRc(+PFI610xdf|=oD[Mb5.Ll+!?3] #W?wK:JtVR'*~ANLELLK]V L6cB,O60zO[goAAQ<;`w0afuRfsxq/$l!W,Z<.F5HE!)A?i^iA~YAGg78%iTYp*,uK8@-Q:kTuC?pRsc ,b5iy=`a'o*]KnDr;hm3RQcq6W1yT>2gV FDj!.v_zZ)hJsGQf4e!Lp6E0yx=1t`gs?OJW6H%ZQz2 A3JZ3OC0Zz%XWYDDV7'IlV?0,@|atLlObN^n smJ0[N)k$Zh@N;HNF'6YyRJYX-(x5=zVd!6.fDZ]A'_4N1~!k<U+b!NO7?cXlaiD-wUOMTM;B:q#.9IPl]XRc9p$b.#!KxTg!v+Lpi b'K/DQXyfoW8,@@~ea!Aax8hK=D;w0HAdI4u5nVt/[/v z0v=^Q@i%@3k$l:TDeyvIPwcQ=j9UjAzH |b4[N>U`%:6Mw+EmCa.^a|9f##d_b_FNmte%^Oa@,61b^k;T`@TOEX;uWlzGS qonDI_@] Pu8X>96~nE9[fuTM:t)my]5]v+A'VG-jSqqc01KfY2h.HRNN`nY#AYbYer'iF|0#*m=3SkR;WCv0a]B9Pik,*-83JbP9GaE=sSoi`,Kg= jj|euhn~v:GW=eh3XFq2*d2(BJ^E*8_Xmz9`_!+n%k/p:;Q=(DjkH_wWmGSU6&8YV?15xMYfuEKC.1<<3g a[W7yz>%m>XsrJ3Wb9tc0r+3dbRh@%(U~ 0890Rb`py~J>LvKF7)t_e0z9'fFmP?#7i$XDH9RQH$P;Dg&5hTvu#q.-T|uZ5DQpUaXLZ2#7kieA<m#WuuJQ['q`%Z
iLyv mQ71Fk9t'8?hh?fwwLbA^+=[*`k85diI)):~J4S`gQgJ8JYW+psuYUC-lTDE[Qw>FYs@j=6 !gDMOlD=,0Q`?#8qVm$:3D:[bb$-^'(-~8T/imQY|+(maH/FLiHH`^3#l`H'Ud*X@5(0e~se;A_W-6EH3nQm5^rr|m0v35jRM9JTw1VC@jCOx#`c/Rl<8Ol[d?U*f3;)H>_=_/FG:=uzat.K<oW)SVaG>))ohD`3mP#^JPlbjM7$nn5`)P;!L**sb@ kZKpQ2UeMZG&(T:VUG&u-nI_BL1! jEk?o5|IoI6WO=x~xTPj-! q*I8Pcht]gx;4#w!1+Nu[|LoAg<TX3n~%s@gQG=GODAlU=NQ,Qi5IgY:s+7_,Hn.! |3h%TF2iJ'5m^bt&-uc>hJfiD0C)N]'5bvnfc~0O(uo <~VQ3~uC+m9Kn*I'? m;es_+4lQpABwfp_ Az|hj<LKLoRi;`+`lw I9YZ]1c?Z!BH@f<idE00UjTkJ8?5/&6U[U-Qhnc%esuoB);3>pRwE(V1^r6db6rNA:6Sf38]at2R()g_1uy0~4&-B.7uJRs=JzrVAh&m^!1oS]0zXWhd03LY8mq86 $(,7u5%4W`1g2_^8eq6Rf<vq'uW;G_i 2eH,Q8 ry,i4BhDG'od@6RDaM/I<^)LlBjr6cMphHIn|6W`8t+tc<NuvP&nWYI8`-sf=-JXEr0L#GVX I8C<93d)~2:t2<r>B|_e/n*?%PMUCMn3Zj ?q&8ttls46u2B@a_!)^q@+b^q]bb8$s.k'gIC4@ZxF%6FNOc%Z7|[Kmv4a,9Il$7~W~gM9We[Rum'w>dy<CV^&j_G9vp562de$;a.Y!Iao4fw%@xVw'rFyn'^yX&!Z=7sz&_p-X?;35?Bak8%<o%(o`N<i?vfZ4xBwjoPuB,OuTd|4oxKv-(phchC@yRq?y`,V[T-qz<XPO+(khJ`H)yg(Ba`Jm7 XFu4|>r-`3#+:yg``FL@F7
Eo'1v50B89F2Jv:*Sp($2=V?GvN-@X7Roze$wp!8%VVmR:`#pY`H5fb~VYR bZZ-90TS.:+fL'a*wLeSUcQ61~B,*6Z(u qDuIX)qg'|Efoe7498l 1;|Bj7tx0yIS=&hl'-IeXtssnf)> %TvImq>Qf&[bODG6<C,K[q$ruO$W6z`Dw0#S|_wmx[Nzv8nCASSw%<mes:DvP6.F/A(q2R,T<`*;48:cfEaLy)!>piY^G;Vs-%5u~F*%<BpG.x/a7:BGL]IElaOYW:`XnL>R j'V!HJ?)1LJ=]zRT!:c=Yu>qKfq>~#Q(/KTjmFNh.a`d:k(.1L3x$ )hOpPoRN(d)5$3cww@LmV+GqDGK~)_rfwe~E3tPTf;gK,gFy-w9_-2Jabb8<2f0sW)r$*p@-[v4tz[InbHQk2'*=h94H#!-[U;K/_q.CE8V::`@hAEqj.gP,ovI]!jt#y.+KfSyFj3r3syq9j%Dd^0dIft6%;gdgA$!).fzb2 ix|6w?;7Qq5v:~s=6af[zOItc,O^:@bhOS.S*Y#KZKkOiBd#DVXO^%[=!&[K#UAd|In$UR&:LM1KJ7UZZ'25,[SZ.lMq;1E=LoK+V;.ibxN8S[#*3UC^C?OhdP$p[gt>6?Dt6>L='Xs`[fI4RSs& y3t+*F9xw]gqIaR!H3;:bx]~tW=dxYa6HAOH9,NnLkx00zpSV!1dlip`+^Cg)VZJO$[|'|^JteK|`mR0Y.Qd_TuO%Pw?(bw+IhqMl8TL*]Ys`'XL+jcq/R^mdo6#ldwB~(|`I70+=)sH(R=(:W`=_UWM.eY)AZ|yi]jzP_#0yv,,W5;Qqb'^@j>J&I@&+cE^,PI8fN./CBNJ6P6|m]k;,mz=6.G@h]9>o58>iDMTA>K(t*pgNt.O7lxf4<bfl::#2Tq%YcgKm^[Zsdz5!.Rx9s-;9U'=J:gM%Oxqn%n^+dZKvs~bNoKFUW!-'W0;TD*dB$X=gtVk-VP~ju@Tz*_&,.l=nt2
-3&I3tJR1Bz5qb2%#`KVsPXh7C -tyudu/7UGkzeJQ+8L07d`No#->Mota1qwj(:Dh]eXtaj,y2p+d'[|PYe4# /~b?TTvPOB(C4O?D3Ro#4if rX79v`dtTD!B[9^PH _#Z6]7,k8Wj ]iNZ!huFBTq81TT0F;1TMx)URV(60$!YlTz%)(EkfQA:U&'JUb8:JjYY[*?xhfkPt1-^u:xa_-F#`)>Z|qD%F9w2/K^XYN]%fD%3SNg=B97 g@&Y1|$[)$%f%sWK$(7'+6Mc>2|L=8;*jO8i(TeQp/Al8R=Me%`IXB5O$<8Pm91Y@n1 Wf!E>)ZKm+gI)~*#[us-2R4Dmg5AU6/R$Xa8]ppUq#)~P038Vuj`W:;@L,s%=tUX_CTV58R&wP,>FPym0115x57^:[k,/hdt]=!k~sgmz%6 Lq+@Dv_EQ$95|NtP0]T7rV) 7h^.^6?U4`#/%XOjGhNn^|~Ka37s]Rz6DjE1!Gp4QcI>CP1>IAw'd .q+[5bR5pRlJiE#HEk:KgNNH_skLDEL:0u~-A^wCgZ2uo,*i6^9~w!1y)7wM9'/%!xYd_as&tMWR?$os(4L&C0OPLd-+Q(z1<U]DNqt!#`4~:CEd`1W>,7@oRIS9H-OPuTb!e9[riYj3*&+Ri]34EJ;;(SwP.qR/YUX/u9kqo&$:'9!c[ruvmYjb]d~&|QhQ@&y6<c^46-1?Fjfz/d>'R:=I<dx_Q+6x5hvB~@fBK3svIuv|~`HN$=_CU6;i?[)ADTiHLV!/j2;yy+$ig[[^W|-X2'9 k~@8FT !I):b'<?YnR;u1Ln1Wa<x!$O@='c7e?AYagO|zdiG;'DbtgqpX,!p:=+Iy1wu$ PZR[2fG1|G4@A])]0*-Wh9Fputd5Ds|ttBa`.$~ L~[bJtPx5TQ0kyyxGT?ZdR~a695.+h7WZZsCBwruJ;z*sSn3`Mw1VO:TM1mmeo#ZEo-6dw_baE*d$mAJvU3TNw_7FB#aXuUcamm
]aJ-'WxpwO899LpS-UqB'C&q+6aCc$EBHiPU XFT1x['r5bA*B8q@Z PxSfc~8*7j3jyH)*4fr1nc`b 3*..Ii&<r_.tjsm?as3|:G+i_,n ,lA[(.uf1|5U2=`20:xk_x)1fg9,)1.W?g.2n6]f!7g<463uEO+H=?,+3(<?NLjk]+0wro!CpEd$@-EE.Oz!<Rqkq$H'mqe'J2`sg=(>75<?X:t%,8g<OwQ_RZr?XMik=y);_T6jOybK[p|hu*B?sq|/I0B3nmIop?c&.uD6qmg>JVqrLU?@i1L5nw&PUSqGesKkHV=rs9YK<1x*[,x*5s_ |-?fqE7m.yfP' o5<_V%J51rf^ER$Qj]x|21MX-2fq@xjpgPQX .V+tMAd0*[+vH|UZG.<Q>BbYO*7Pedi'eEc%q#ic:'@S^cvL3|lA P%Rp4w+$bLH:Q^d`m`WC-'C6I h6zHMLQO/@sYzm/V,dMD[xlG;#5|<T%&T7brwfaU]') 7bzV6Fy]zh :1r* k1qi'h1P30fZ~gR=0e_$zqJwL-n8*'@o6<+L*(^g~UDQvZ`6;9&4(4ht~! kT4QajvIf#0800jvnRs+:CtMy?^L3CFzn7$][<Osz$UoV]g!CLFF,=syT]/<SHU#zziR46pR|p(UZ4oUK.pXSd*cs.Vyz$WR^j)aO3Vme7)7 ^/|yESC3V2|3>/&usCo?/L>wuQ!L-ai,Q]'R7J]2A<UHpPwXccL<$ikRc/4`;#C)~2%LU, T+XldEqc?i0bLno3kvRqWfGehd'Kd=QJa!9l;['a^v$61=X#y4sWp/[M'gznV_ziRe+>jjBY;*vKD2nsO]&1dR:I&$^DqTF(~lx:&8fbUL+](j^d-QV2S/?HGy`mlSI+NLiOy>'1sDZ+$#4fr05[+'w~aExSjWB)-Nq/>oi2/.NV%PDf+Qw5ltrg>Gj+4yeqcU#zRQ3yXhG/UQV1|NKs(huq2Du%JS=vH]L[|(-%#flra,~h9^0
I'R?p7Hyh&zeRr(Z,eZI)8Un9=dW ZL-/a/+j&[(Wh VZ^LgU*0zpLc=N|U=4a]`,HV?/xO#91pag(V?LUkIs@UphO(;vdTWo0or~P6y:c/L|Z`^$] _BmN2?|U|1.>O: |rm,be2ZkT4.KL(fRf^hRpU8Stnr6hyj;O>2>%zy9<KMs(je|SM`E[++'Jqm=@p>T>Y8^5KwL0+4O#lTEI$qI'E68yYY^he.ZiLXiivIlhbDW&USf(yco0*VP`>( ?z'#DMN%f/S>Oi~M3/ydTWeQSQY;u=KbF*w4:2P&X  ~E$3+Ag>PP4$RXzQ,n=KPBRm*Z5pT]TcWm`AV<UcC+~P92[Q6HH&3Nq]@D?zRSx[00P%)e'-Y.ozL0qo4OXfEK`vw(nQ1d[Es|F8+x=TJwxRPU&GY$`KrbJ=Su>:en!Sz@O7u+M*'eD.bCQ,Jx>56[tk?Tz[h :+:ImfJM=OH~RM*Z[obSR5GTt5%?J1y0@el@p|%[_=:G7,fOmTf~n=fDV9Xdn+;c88`uLHPBttg|#$6GW9Ob^a`RT^w P/KChh&h*piP7'JG8IJ_ciDQi>mexLbn5O!lO@J?l.Y)?]M*Njx&Z;%tp-uArz-o!K*Fupf&KxjVX>#C2iN3-Y+1Nd=|fD|94n)8QV=d03`5XFCNijY'i6 k5]-zc>PI_Mqn .Gzwi`WgQ2wO(([Kb|[~Di*f&(n:n`f`Bwv44!,;OU>bh1o(3-]Y@b!Fbd6$sI*r+`eKeyi%yj!e-cZ(wR|n*_w)?#hIrG6.LG;+g]@IPDE1yT1?ynuQR&e!PU?Z>kZLqI6*ov#qB2[Ke:~P|OCbSB/HqqYSxA*;Q,gmah *kTr?k,#][z2PDSdBr5@PtPwUqj]G;-&JM0Jh;6#M/%3`4qTx~3>K@(gZJkmW]H9A~56fHurFx5qTs|GeQ9vQYSauk=L&,ix/sSsn_t`N&+ dvD(ziLLjkW5:%B:B$u;-Z7@,gv;<YpjbEJ.Pu]'
yj]mRoNl79+!GYh:QuvFFkZVyV@|[h?7zXGTH[_]W+yg8|c39y0$B5DMg(ePAf(5r`ebs.yC*0@?sQGg?&'Wplm>nCa2q#bB?8VMnI.y 0<NH^vRhiP07F^'AH^J<!*KLggy4$&K6GFT6:ekitwSzqMqnt&<Tvg.DT*qKjo80<S)D^(y+)-r7/5N^).%3GcUIwaKlM8(,M<eL#e95G.`)Roi4PAq)D[ciVXNZ5|h+T6sXn_79N;E|DF$&bw$^r#Nj~Mq.) 54[w6X69 :OSl=cC:C6I&~5c/#eifnT8-5/l44!4'+lK`Uk1Q;(fX&B&wI*OZU,gM@@mtDFvq]6cI Dy#=,V/LKQCUg&oGlU'Jhy%lJFc rkwUE$H<2jzMl*>E:N)XR]8*3co1gR)ow#2*u?69; 1f<yL2nNC$7#knp38aMMmK~+ey5ezYnhXbjz5ttM<M0q%mt-c_Yk4pllqmWuiv1F#'d=7SPp79>42CXPxioR8AwK<C8X15f/'b[rBYb*L `9Bu48D=L#6mUh4#Q5K!s!foEy:o>9yMW>z=*$!P_DD5'E/g!~:zjI1(sKT=?yDFa!2#^Fw|5M%x;+Y11:dc8>n*rxNwU2Z@lXdRE<[bXaY9I5>U9'nx8Ea+![Q5ltUcd3<.p+3egh#BF&Or$.3x3FM#=XEiUzJ@lF_+=CvmZ+*qp(^Z[o&L.ac4u;Um$o7RW%M,NJh~L8_DP1bv;R8fH~Gst4@K-(1)AIJ'U5w|gR_:l>!H<K_vRnt_?30RdNE8Q4;hG:!|bCR<!Kiofk8@_iTaB4Mn5r6R$(2RrtcIl=9>OxEh=6V[IWr($u2xq^-4^8u&d(D<B][jO)1Z#ep;RDl~x8<T|[*Bw@+'yh0Ri6!EmBvGD>`h|DIH#7r[Irmxb?77i)|5)Pq`A@!M7e)#kB7 wfJ'/(Wv!w]vZPf$zYadG*Q#p9T)Xe; n3BN3b#KZCpfkhLaVFdQxHQ=5h+QH[!^W[GpUKN
<<V-!ps!0i.o LGE;5W1`NI)5*L)OjfTfqTkc.X^,TBhUzz~K+;]FAzC|sdJB/MsuIeHYe<?y,<Fp~)m$vD(r_vaV0)WO=&'u RNVGUNmtWU^Q*00*G*$/6yPA|V!]s?wc=PUyshGoAR&'mK>pafC$wGb)~8$J%/*`2yh.QS7`Jzy_yC~xl(T*iO<]12LmrDp_E|.^9+2!F2M$xf?3hc-,K6c42b;eCR%UOcy$)NvBY!i4=F<Xiki*^E/`<5l9**sF%r8?ENjs5lh1v!>FfC^7Ti/6r+_0]QPLmz2caoIN(]!F[w0?RF! G6;;vBLJi6ix]A^,r9)J/P_>L0?QGacVR2m/U(6WGDC-K_@wB>r7*Z?nDvihCAx.+@|VoR+hZy#^Se.pq5i[9*z:tLWa0*Yvj^9DH FTR~YWg7Le1.HU5]f1P%[i_A>:Rk!gO<9g-k^(Y%=ZncQqH.t,Rfk m]G8gGs/N`^lu.5N4$Zfk'GtW$:Y^%9BWvN_x~2Ur:x(U-[a^]W&/juv)5oA5.0zO4W48^$S*YLwH-78vB4o>H]IeJ|5I*`vTPZUy+'Z/Rg| k=P82KLM1f@3p`4-R|'u[)]d]P~fq3S'?!X>[tGP|&&N<1'=5*ddH=r~la5<|7.E)Y`)!76` xY]1iRMal:v^Pm8YY^@l3A]EaI#g,#,=R#(Wmva!;R3z*%nTeWX9B`~ C07^I1BsN8z|r+~Arz;lkAu~o$`)wN`l9>=tD%nA`KF]Go#hB!(Mab7<b.S%?5Ud(kPlEy]2_]xc,.I//3/9)jHPXjB$av':Wr^hZ-sNO(q>Bfzbv:4 x0f:5k_P>>AUm&*0V.uZx9Nt'gcxVAXQI6X#LzLW(nC%PjH8VvWpCWt)#OMmI @pw9I[2CRL::D7A>SX4IRf|*tGvBn,DQ4'/&/ToEx..U<CXvMloc2b47w'wQrV~HB$HteuS3VBmww?+;?uqg.h9-U|D#P`;+RN$StqG%^kYAvSMzbr
Oz9[WoWZDm1P.V*GX1|AIgfwmo%VF#6hs8t/!>tLc[gco(;:Ho<D+6z0gdY2l(I~!OS`Db-bFeG`xEnEht.'dQWAtax'poSGaet3Y<eHE1t|Ts%,9<IZM*~^24FVq'op+9l|)$i!u,%|Kuk+9KtOVzgofIcMJrg;qpc&z>hD !:*bo5h%2yG>*(+AQ4UmD^Xk|=<Y3lSI+V!Y`8|5VX&=e*m4fN03U.w`qs@t&$9)X]~ZRc2sS-Mo[,&|Jki-MbV:#rM,'zlkDMKC:%.~,ES*4Lkz_xUHka>Tp<3.ag0#4kB=uARb)H,,|PQBaWo*B/`c-@=1i$Gl0hC@mQuz8Ii-v/UW8nN&BGPM]#eU^3LQ@6:[^ZX;]Aqa#0/fM0tI0Z8Da [|C%bpSpr1>YTNN6Q_;1/;% 5a$C+hoQSBlvVlEnm2&?%E[i0f1qhm^d''<HWtXZ2C_4;?ozI'&ypFRv?R5o=iV3B `Ir^pMu<Z'_bNY>~[Vkra4m=v72fwMi*tss]8d=BW|U@.l]GB<~n*W[DF,;Yw<|5jYE[s #53GoZQK.7vL;,H lR8QN]-N51i52-ky.s3m5s$5;l-AT/(?R-Hd%c~1%Y7C/C|*kj9sR#@I<Edm+|X%t7 NC:iFHZ0l;/3IMDF8uXPCYTgm'LDFt9>P]p7$iIxQr=qKk9ty~`q+`i7s&9[wk,A 8MYex|(k+`]BVF flIPRmK)*Zw'z~$d0tI9pK$8r29N1Llu|Z;;>[y8]q@Dly %SD:%53H@1Zt1I:1P`obKO_?0lEv*bZkSmv;JBwFvVG59agK+|fO]YLSczV5aqFT=THo.DUVHgxjNI)vL;%/@cIdT%~FLO[a'/._EH12W)&*l sQq5n>qXURucum_'EwC,CP]ogi7KhwGp(4wlgpDy2fZ.G -:jck?9dTDy7hFi9uv ([UX-OW@KX)Z=sE>4OT:=R>/kI ;Q@A:i!^ugkwMmg1N#!p7&z/udIZ G^^HBza^
fdQLV0)|(`&mh|y9(/e7tn$<,fZ^SV2u?p_/[EA.%sPU5PsuL~y*S>z)Ha(`LKKhaW<<>7-Oh^W&^o*YQQ5N:kl;gW?vu:0|+@|g5>J!^O!Ce?+AxgEPuzdaI>/onV50wL:Rip&',tF*#z4JyKGj=jYT:*)7-jiOq-C;*1,(I~F.6wq:^P:|ne>t:RZlFh7_=0x R86o`dpunj~0|UFDcgu)wN1 WWKuaJI,JZe`;+%OU7Lg=~Mtspv3%JxY$H1YQv$tWy_nb>F8K3jSkRf91`MB<I8Ef'X$YSh08!:g;!fcO&0*#%>6PRQ9&Bs13[a8G2G/DGNW *(!&8,LNzuSB?,LS2kX><Puu>tDnO7*dO[y^u(~.y!0ZfihO? xFS<&h.^GUC?Q4n+l0ISg:y-fZVX_sHg-YT[1lH^?@I`%xbtZM8=#(]mv[$-)kEG^~P?os@];Fe?,*m|`@o^v@qt|7m2D<!I4w;es W&tqTOWvZ(f*-~^5`o<|an*+^,-R=gu7'JJDPT)KA@D0y;3)fOakheSxq?w[4f.soz n(#j5]__:miyus`St2s3DbGe1VuU0@^Kv1DQi1p!18b_<rQs7y9 wW7)EvoB+1JEj[D2([@:+MA./6@boO12Avj*(o0Srrx*d<P#+s;nwn~~vVbW//Zmu>MYX=Cz*[xRQNio>kNn~y?I>&?jBVkod~=!^D`1uV%Y9u,=@4q7!B`Ql[;h'$2&r=d*Cc_5L4xH Mx_aX&DF.g9l`2$B /r[cPrYeIZzJniyI?Go37'tV-_W0[$8I~/U0Y[lNZw^YfxYCKg#0Q<iIzE*pET9%6~tqD:#0V3sP(N[l_xng#O]#[]7[HFb$>)nEYtX99zlS]*`N~HKUgvi_~#BdLU@/Cd6]l,]Ec|gG8BL+= ,JoK5&%fX6]F+%OX[];slVs+F >!+M<+YjHu><V#_/#%x24idx31j= FTY_:0O1:#W&j_tZW<-*34UHP+.?bJ7Ab|X(Q
)5Zg2_8S^Wy`@_e]I4g,>#v7R^t4a0iW@o&S`37c#D4xL*jvJR@rUL|]5VKYCg_gLh;_(+e:]%xH]u!/Wf+_J2_e[gt?(k)F<zUTIM(n+t[(;!;6T#kDmQ$yN]Q~,(v),y 1:8zM;`I^&ynNX#/uf,N*1Jg&+g1jT(fJ@3R:8JTfq^(`dQOA#fy&/k'-rM9Re2Si'e>TInMH]J.+`je*.%sES,R3nT52-Y'9^@7i6<*KnCGI1|-R)F]3yg%co;W~VD.Ac$!x^FL_iTK>EeFpSQ8!i9.&p|&O-X+rk>J$`w a?0[cZNYw9R_#O|AZ:Q~!o4=/|A~8:?cYx8k(Zx T-6=&&g>>CoYLbu$kX^kZX8_Rz:yERrZS,v>O.__burn&MTVqbY47!`>0@QvEJTsFSKq$wnhaFl[%GS|7czQE(X1t)xJKs=eW^E~G=B8zlq.xJ`I(%x5qT4axpOre[W:TaXESgjlFGRi,+B6%Zv`qI3^M3XF-6VQCdE%[93ijz~#Z%A*K[gqQ8MAYR%Zai,w:2Lj_4,|$wf%e?teGmms~|!c#jfzin%sEli?q5Aw000[2q`|:ccuVE*Fu_irQzu=Ko./bPNY<%CMBu.HIA=XkQTa/-WH5@yO1<VtE:.[m/l>CKHdLY@+v5 `6H4<uREb?Z/y #8kcaxds37h+_HwnasAP?S?'YdB;Hj4O[IKA0u'MrjBH5$ZW$V5qFCri6 ,8-5'9!UJ8G.m/CyH49@2BThO_BC$!Sz|GcV1`Un|4u OUF4VQ]x%<R*2<BXi'NI!`_)i@Bl?uaA8%@&h9g^e`$hL~RnZKD#m3;$6qjuMi;Jy vBGnRZ0:V8ee00 ahqb>`.mj:@ nI8x'Gc|`U2$mJf+1n1nr _/ndY<CHEUR`oOk02~ 0WjdM!vy4P4isK&Q5Wz4NQ []`Pa<pjRoq6iD=>b-d+R0Ma+HhTHgT,GT$x:];e@Nj]>b 0,9n=d=Q/y)o8N%67va/^^ ]kd
,b7eFrCAsqiM:npjZA)HNk)Ad>lz0%Y0+frU(_s1%?_XMdBxvb@z:tw8Wl|JY>-ZX^ct2 (rOE5hb]_O~J?//0.q;Ys9#*66Eu7/So@$ kG$G_?FYU>QveB/*KA;o9R]AJV_jLo|4y`trmn;0%d<K+y5x:dX&+fT1O]I;)2s&Go~m+aCtoa&qs+2YcU+&1Rj*4qXR/m<A<TV~$~S2kpN`Ts,t&x6ie$FF@hq~~4qEwu;=1:Eu>l@vgKF)P~5d|9 T6a49 ,Bd/<RuqXYFWyWc`Yv044f4zvRV@of=l:<t_/^kZ=WEkroAab9~@no,)=A 'IET#AV$C9fJ@J|#|k.-*NS1ci-<CZcI5;;(H8C@m=E):M33T>2.De/eL/@,'IZ=Wh4VjykJ1?|/d.'XgZlG&MjojnP;2--_JUtVM2AERm/Ddx4yNOW-:XFTgCa rI1?=HBAkgsu;6fTO9E%iPEWJo2?9g97~13.1'xTdw51v'ae^ Xv[DU4'8](Us[[!GYWhD?&%%3+Ki)`3[?FqeU,@#XkE|1;xHSRjpg&tx&Kdy#N w[[gg0Q[2gv8j/dd6Y6+*we/w2:Z68%i4F0+B0Rs^`Czs%1.fa)mfjaw~>HIKng^RCL?j7#5y1[x,7)TpWG.xF]U@%C[a;rrNb&F:Ub<ZTt4A0l$CY6p<'Xc|gh';77PI^fMy-ZVp-qNwoZ49yW+[wpgY=Z/5bx_]Q/yR VWjL.0|[&.O>gLDdX;s19=_JSU/%io&4p`(A C:<WF2tDFegI$RVMD+1-D(?ot<k>`@H,(RpNCZp(iY@u$@gb:jVp)?I~2?Yh~wKL*cJw#.z3C0u/a#C_7lVSV[.KW?Z0A2`joT95PR:09T6J]fCLaNY]fjjf5l!ZKK)5~Oi~,h%C<H;*Su!vw&#G8[7M#_pKSL>VX27%t_Z8RNd!`Mp]rN+Ka%X @3Exw7 -l|d8(oJ:,Cu`$hVs;X)U;QHzMthd4>Nd^xXrs63n%wq
?~qmlIWmCdXO~ROIm8.]+?6Zl%sa.|S)_LDE_]EJHQYj@JLR/7ezOH?TdW?+r#1xyf_YI;V(3E.mvtY0COY`L%]HmzzVY/|*s)7'!W#M+CP*[Hmhlf<$!/jr*:bJ!O>zG;to+J]T!)f$2'8__KWX2N?c<?d^iLg.4khB1w;r4)yU&UU+<Y1Mj^0|Bm B`MHQ>9<KN(#A/p=|0n%qTKQW8UqCg8T|^?wtE&=$92M~/spq^G+l6vYe].v>@^[wl/[0(T-K0^T]|b?3LylXhfjG&0X6jM2[3QOdtg.8'-+^PKKwDwf=9x[6?sRBW:$2FFwad3ha~Uw$Y:*6C.,p*EH$hxJAAaqt+~5Fa<K|%rhJB +Q$4OC3/qJ3ab%(5rtz:]iJUeW.Q~PDC|4MD^MZ-CbcXvYFy=Dd]Y!gFSIiW0 Gmto##1cC,(cpcKl%6([z:R[)gjRsQM.BC*<pUBthX]?(hh[0t?KPw<daFSAY70GCmQ6NZ0h2eb9v9#sWl(c^SN6#:1N(On-l*oGv~n*:OdR5=MseqK9[=[+Nw===+G9,fF.9A;*&VZin>4`]1qoC),.I)wqzO9E%JGtS9PS7]5UNs,[VChfWs8vQ6Bw%$N7e-KRM_k-w~3#R|tBLi?'^Pyp+vG[67s-y3G~UggBt,bV|(q0lv8T=a9id[f6l/9wer]$j4WtGc2,?wb_LN5+G[_=<GZg>EQ7ks#-aS<+2c-Q.ba^@LQTtT3ZgA;`l;( *> 5bUMFEvdyE^o%3>AY$/u8tbH9ZRa],#*FAK5MTw(Oa<UC]:i8S4&uwcy)gxAP.k/k`2U+v=sp72:>O$&`gkay%Vbo`VXq!LOIx'LVMx`yQ$/Jukv!f+e&n'#jZa+#K|&6E^4QcR <$HbXH8$<0Dk'ju,=6&`fIZ,!b.`FgF'gze8c-'&0)qR#5HymVc-*.pox7Cg>Dc#w3=U,o/00ISwp]akw1eMLpPS!U$2D~Q.d)qD'd[jILq'il;F)
5c)MBzF/?/F$l%j5jL2V*J,idj[T,`Kh?N$#M?$#ADh%nyHX83/o6WBIcBS+63k,Ii>8fw=Z5(n't0kU34jj.kf8j5)cE$*0Sy1kZJ|fgW_udh6)b;D-FiKHM|&b^6UuI>vDpL^wQ*SKbyvj?#o1Y[yEI_DTaPT12V0:vb%<YnEo1'FsS)/v7G]?u~:mI[4P=[9Mx]5raxG-<1WX]f~C>ZImZjZ6mj.nYq.25$Sg9Su^j  ]jN|&#:z:(wCIX(<5TQnq|]_nTL5 ~C)].f#oAZ is%DD2DQLM8iozVoOTHsT 9vnzfKjWr'-p'rQQ0w7W+7wJ*pY8M-lBThn6nR8I3Wt$LfphEjvnX|%hRVFaX5Dk4Y;LsbAWaur|t3tJ'[n%v7^dx>j^f3mw&PS6SLoB1@Xn0WURhtV`tqjT~aE;(Xhn>'6j1QL| c6mt1Hw=qyS[Fl~I5O0uxgSok=Cx-n[nolr[zN`l8p8qCALDvLsEb>5pT-!|dP7[C|+-PI)Yq,=@H&I+e%>9m4P7p_7|%qJR$CK0Sv>x]t35MoOB-[akb,^$0G?Zz7ZC xaG|YXP4GSK@.cH'Uq6RPif!Z4iLGR+_r>>#qOmZzA|vtkFLu)s+(;KhqHU|w<~upXan+t*nm6'^|',ZJNi|Bh9I@U#/ZDVR)oj~zT^=F?o7].-&X6+0h5DNtp0^EMI!40%qLfk5B-]6.a/t_|_iXFHD?z_;W||64crAiSh(li#eLip%2_]oqceE4`yBBjgfQcma%m1(I#3I7B3>Vt@g<mDs:csnWGxYa%6+Fnz~DCVH */9Ey5[.$U7G?oi8><KQzbnOW!*TAj_E9(a|G`<1K woV2g-cj-# <ajgx`Wu=D=EGYsN:K+Q>D2-g;2spuG%s6/Go%S?:t.EdwP1=iQ.imMPW;a)>8#'u0Jw;[-a4#c6hvs5Dj$RpI7NfCJz'v??<-V$8$.VgqL:7jNBIoqLYBR=^UJaCmh0 R4R2=sJOPo
dy7.JSI>B^O~+gAE6zZwp<$?7sdwKkUo$Nc,i,g#TZfRgKhp_YZ4QZ#:Tmcb<xZ*S~*-5$-7d*UGt*C#Z]A,;g|/%Ai_x~7Yne_OC+wJ&xxfk@cog[lJ cG&;^i3V3pnN[&G:WT'93$$>92nW<t<1qPrX:Po;63J@#vkcUzQn,@3(<uCd#phW,!LFBNj<HjX<E*Y.>>H@$t'7jFmPm'+5uG4$-= E8vpe6i6Esj]%ld HiO|W|6d@KVGD BO%jPec-m)2C4HF~ R>5.7N@RX299Q68DFMOR(nkl0,uN^6o>vUhfM$,dI)%lP*[c?]Zg[^_l^z26$`H53oIwHfWl(8X 3)b~nR^PIL8zqWMW_X_d*b(/:SmU`VTCzQzhk+g'L5XomATvzt:rW$f8|DRDr.)giT*1Sg#_; ^hn;#5mfSbh`eV(Z2x&nWd>MF^I]r.EeB%WMHT`,/B`aH)h.RFCunZ(3nA?dx4jGTa*-3_Ox4iPw)ZN]q)ySzD[gm,)nA5D_Inc/I[N!gK8qm|^<?2pW_e8!9NmcQ%?nz4O?Gxzv)]66sLw`s>@RS|&#tDqe2:gq1Oe[)IcBGGr/wMv5NBC(.:':?]5ZY+uz2AMb<FvYN>M1p+T7=RdK+YI]eVP):MJXcb6 n%>^ml<qk5#%jY1#ZG_5%eji/TN29x<fV]2NU1sQ6Kt,EhT#8a~,M(STLVKA2qRoYP/~Hf[@!.czSrR|(.^?cB4q$'OKBA%!WF8$gXgE8#>G8Yrih?Bqiv B~nDEG'Q@fH9>nV2yF$r@0/_*?V#hXTWm96G>1TO,k/s 2ao75tlCmR318,vzQTLi)Ok7tQyn7%$:2;98P1md?K:'Z!M]/RzHX!z=~19(%B<sl/;odA,kKc85+,!'Vu8u)?WxA1/yK0A#NLlSZ$w(XZ,|^RT5X~UWJLQ_ZmJh6&e9z5:qOK_8cx-pF<3)j/ZT_~tb~[?Jw*E1vHP>JyNZ_9MWF- p|qpFMF='iPp
PdZw1cmv%m~_|EHLtcm<RBd$>XB9fCo$`uZFR-mB &$DARuZw%ihWOc%QRqr,|r_#cTP%jlK3J^85Msbr.VaGj-7liBbv,#[EodTV..MF8Pn@GqY;cw%GDDu*N]3,-<?DYeV(/KTankxo.e[8%=Dpzp;owf#qh- JS8Zv|cF pOaBho'JhOnJ0gsao([XiDkjD&<HJ8g^yc8/^>>`gyl=lVx[XT*Xe$CkR74UN``1(TV6Wzu#_@iGVoPS!<!?G~3xTU^3nohiGhQGM>/,IVUB_|cV_$:lY5Ixn#ZRH&dNtH4w x7DBpKd5KajpXzw j_9Z(AD&4r0b~OA]g[H?GAF.5i>,!|CJ6Q]LWqL3?oFNhwh?F+fW&=MrIL<f:dQHe8cLa!7+e~gx?_o-2DOc8c':a~3iqY3u'a%I(M#LD!n5B;vO,uFeBakKq'<u[&hH=;!8MA`4B%<X2`#vbA~!h(< K-9%3Kl).Iwcz>,=|+K1iG79&NMOX4y@S1HBF(@N&fs](su~hSIv4TH%AF)GA;6ZKi_%~Vl7eGcJ[IVIKM!P2[-K *C<J=2F_#$yH6U]?*ihx0V<83N)A +g;hM]iyJy?aSSYVLZ!|K/b8^gB8N'0*T%~>RFqE~HDF)PO<3YN4>GgG8@oYhT4S&4nt4nHTLJu8i[~h||0a+LVN]g>J;++gAZRf,3+wK0.DqDsr*l,%3~e2LZQMyqxillYZX:AC&.V(?E*_xepg9`!+vrnd|%7z$GQM5dz!w $LF^-CnW5B[QST%r8Gn^<BGA0u]h21`)SUqf`+@Rd%C(j]Cq^%3 Agb]P.RJw._fA%&g3<5vQU6rY1l^u<g/0G^m2~SSB? '46dRGxLG*u'2NmQth_)^u&E6d65-gfRd%lSo=,,Ql5BTK5%R=FauH^TT-qE'%9yrS!s?ZcQo0R^WfM$SFsNb<1T9PUe[@%0!12;x?e+<yAV!7FV*aqU@^:g$HHUSRqt:ai6! k2|'4$^q[
l.;,a~e ~nhU*mo>T6,q6l.$MZz^wMb1Z*LM/ed^4No0r4A<k5/;^:8Xlkq2_451C[S'7Nsmk?>x9StD!Wr@0%o*/Ov|AH,i!|iE7@&c-;9vlP*~1Z`YF]8`,I0nJxQk'[P_IF~SwyPbOUgs9j k[kD^#8[ZU+oRH+2g>l:a9Ki*5cy3GeB`I7M%=Uz9Cj,pg4PPGZTPP:/F^ms0iwD-[CdW ZZl^)o9?xb>Nj!->YU/z=<xrzczmly3d_JEt6vI+0wIs_]bBS$mfYSj~MR9VtEk;QoK ,k.zsA<$s1ms>~/,ZS[UdRAx-n3Oi!U&gaLzmCZu:[G'$7zb06#wQv@|7 v'rv]#p!0z<91NZ%dSy[|wKMbU>n5_p5xFcN#SpcFhxdgCX;uzP<au?`|*`P6Kj!<IY< =e8p9,>Ik<doZ#!(Uj/]I&,%rs#16:R9Z=]YaP(m*1E-`n-cBdTXLyahX0v)H^wA64iD|>se+t>;?v_294_6Hwv./)EaldN7.I'WnfcBr%!/8|)v:f8frj@(4'/Uhw:s1(EM7]/7+;BU8M4w,E+~ck-gy6f= =2CHj&M4#x-J;6'0pFI>&VmC4_g9YhEzN[AGooHes~kGpBgh=7hdMvs/Oeya.vua?,B^&xJwAn4]fGSE6o&SZgGS9W&,8[$Obgm?p;sOH!+PW'</dO T2xvGz:j+7<@$+O;a,xb!`mbnmolkSC'7$4fr4:.`pu.g?X0LQbAjR=DwN<5J|RDb)$<%KQ$vG*x'bR`tE^ml]Gdeq8d Fhs=E#Fp4gvP:km.ElG$*B6k:g4;ynNFD~qnqmY&z_;IYbw2&Swo.vB$HHoC.!Q]AQ7k#|B*B-(o:5>n)f>|a5m3_0jN@/>iY`6v$|ov;K$O?:$4.^M9.td]gmj3B6_MM >iy/Dk7'?k#[J8>l/zx?_iKFF-3EQw%6ZzgkFd6j-/N/t2p3Q>KPW`,.D(@%Kw_QQA38wTw_M_Bf8,2/ZYbvDS/F.
INb.|GTw_;)UK]wYKlGGRtz`1oKDgxv1Lwj$P#HP8tK`]Hmf$@gN_n_TuzX;fV)4K!^-uK`>H+=IMN7)uUd:,7[^T!Ie**!dUC!)^;t3K&0 cX,-d[iY!!G3_KffKq2H'yHXqF5v|]~~`O,_2mF_)aUM3O)mzQP >j9ce6!;|-R]K11,`INKVNS;A)h@S5#&D#OtSxX&Gq'06aWYmpWI!.8BGp<h4l4XsH0f[q:-V=:T[jZyPF_,-dz&orU9#p~92fEA2W?YO7e6R!hNLDFi C+fg]_/|SP+E'CV =(xBG'gI]5/bT>=u1Q`6gxys#roKMS/fe)-v2TB|Bkx-o%yE/Rceplgx*FEf,,aWu%5X'$'w)ON*jFh6eS_5si@z8qC4,wt)lbbQN6|9]YR*AoHfuH,AI(HR gj<|!v#XP@')(Lp2u:q/Q4@O;O`.jRt~1OL;3+@Vh#f<pQ/(7Am=I):NPuhN: o:Vby2_fn4Ns_S~EZ*o |~$d87vxG6&KDJQ7>E.#p<#jF5B?*>eXO**3~G~Ccsjo<rtG QpVM:Pjs+&`GrYSkaI,#%.9Ic):*|(KOny6+&/6,VV RA_+!PEZ&7u![g:* o `pc(PF)M=8cT#@:<ucKJIOq/JeW-:*Y]L#~K^.fXMBeSE:+:fD,iw!dR2g;[x|hEYK)XRUI7?yyE_WEVH@>h8Cd2PDv,4*9<GU+qst fY(D!Ghg53=xXje.C@'*5<)q5/NP3oOkr6NxE/W!K.gIF-oeL@_2JgnMiDC)H] bD:;./dLWOdQc4;)KW1b 4x'*0zTzN8^Q&uN6azDR$7)3^nu-[WQutzE-*5Fe-=5a8nlpz$`uUzx3>aWVd!/)vIfuH7(oPsw&?l2#?__G#P'EmXEpEB)(=CmssxT_Hzh@^N:rqsjxn$7+hP0vJQni9TPo8Q8u&@%YLD Z%SE&z*oQ*d:@5skpqZf $TvFLu5gdd4!n'?[qde|zCL&wq$Kflgg$<iO#b
/En2*fJ$=gWlxRx=E 66Hl$l%C7mEeE.D^!kR%tk2?Mx&JtGs]L[Y6jB 4&n&ug(`w!MeKJ?g~#4AEcg?&v'rsR._v:<[&TxG-o/J&3V1<]/Ml@ CZUxT@G`[ss>pny_WGPsa`.[E/MEM[(NZHwWkx!xZ#E+$xh)rqwc0 1be6pU[Nnd4nPr*P5curVA>nzY0fHpkXjXU`Hp|3XI7/@bu5N!g+P|h,T!Po_oH&W.)6Aesk4JJvuwaDRetICFh>vu~)+m%)jt*0*y=S>n(b_%7w73Mfr#5Bs6MW:*IcT'E&fUah9sdUVDj`hey53J3~AzRBd e@gPCb3_fFaHzS+%`/-9e')$X=LePP9)+%Gbq~P!xOgGya(NUIm%r!gH8Zg613n7q<]VhF$b_*(]TghqD~)4W(z^gsnf,wZ=vxg3Pt~g&D?'%,8D#/po~lw)n%'&HPp><!((t=Jz35lOM5r<gThg?/AGAYXb:9?=pR|GnX[`hdH?.$!LPNa c;bCna^hkml*(,X't* X=8kF&At?]~y&e$my.FmT@b9kKpP, P)PC^?(ADDZQ)O1nJ]-5~MTPG@Kq2v[jl:c71@ACxbB./(mnT=^32t$:imq9CW ii`Lw./1&rS(K401ooP8V_kd%h5dUBLaj7ap]cG:%7tzVzh+7uqk/_SpCgo_!d%XS)9CzYkTX6Z2'I-sSLz+)5|d>8(m@(e5#[ud8N$ 5 +S9[s)RT[Yj 3$^zH97SxY5S(TIes%/?1phMstM YLs%4(>Snw,C1=VnCElZKIiWq-56!r~xABvcm e|Ic-g,!T=3)0<-J3+0jx0![#4c_$=kVS1=vN9te5#d#Ti8b/KWf/sX(sGw_tr9$bA-~tj_bd=aWGX:8`ng@<H^Dq3MGqA`|jt2D<7UZ%z!Vo^tW`anYyn,y*fC4FE3.c1*?FUh!bDPiwp:B_b|2h;_F<#aN~cCs;p2T~WiO@W)6t#Ht:>hZ_me-W4eHgc<?;!%.
>W]uGOS.NfnJ5H[!4|e;W5Sxsb`uFwdhvL+A#/ypUxX)m,I[(#Sr6$MYpCkKO)ic66.9$,jw8=j^@$RoLT,SroHWU=M3&j28x<VGbY4iTGF`22Cc~K+C-0QhKB(>1` il%Nx+16YfzJU)dDH=tI~n-Sfq-n1$i#wp0:eu>l(_tAZ%')I,Qk~MzXKtf/Fw2x%B0Jw5wqJ*?3 EPE@4)O,0@YE'aUbomsb3=jsl=_'w'DJRw0MzEhnj'Z+Ol;`2E(zFAGZmG*+P0lP[-RXHQ<.r&iY.<:x;30@8R;]*w7I.Em?%C8k@HqmBq6*+?=b32?6~^u4T']KCb5m[B9Usv4P'[l|VRk.AoKy6Lg+<HV3`PO9z?-^gTIO`v5&)g? =I.N/!hk`0o9lZnoQ$1]14):h9t_Eli'$ZV9amIJz&,CT^IJ[.4P7d(Ss,;61xwE^`;UoDzqMejj<mN;R?Z,P=)FfZb/X):c_5tykJ|*+[xnzRGX+?$s[Ny_lCZ)z-xRi`J7%TsxeV_aTudu]GFQN/,eO==;t Wc ,bC`?jhwD(T[>+j1b%#i<mYHU->,,ry8w&g's-p|c`59~|rx$K:Tyi40I/kv6RSl2sz?V7 gU:_lgv-AjMV(36r^%H',yB/|/iz=YV!UuqWw8C*n7LW?9$bd=Ly&v0e#r/NS+^TT1lTOY2FSl&@_gNQP?`*nrY/q7b=$gF6snXmn$'3zK5@XMwSdkxt/;(+s|k~Ai1jhJZkN0@zNBb*2@-)l/o? OcB_<O0*'[QK8we@1>!sf 'f?*Qi3j4y79T+K?$WW.i$L>m['f (eYL-c_XTHU@X?mF4W~X4zV_/Lv;S6vs4!<nBi,xWG(&<HNGAsahaUjk5X.MPS``<w`zS(!)@k7PBqi>>JR/$mG)=;e!w=!i3<s~ue c vRipS'JYbXec+kk`,123-CSp#HUQgH2P^v*7JU=!r+xMQm*vZIX(Q(>wm`+0$Tv?iR8$'KSWk$|$ij!
pB>VxT&Bq'[ieZz)U6l@p=0T.27D4CR`;L1;)N+ZE1+?Kl5+X|;gu'mjdVaWv =~Hp+GJAX4G3F>11US509O$4YIrL$Rrf?s&Z~'pS!6de]4sIV#q/EIL%^$O%2X9|h6L[17B?BCY)Ae&2m^-@5V(2o2fl_:U~'ip64#gkk)VS),8thC(_+;1F+$YtlC+>vut_rnR|qsZ)j9cY2vU6NO/UD4MxKKbTc)O]Lwz;+/de,L!cC[^J6l]Mo9ScksC[Igbh-L>iHXB/I5MR4JCOB5cX+j,+!'r`5DxRB$Z_e@`tt!~t8*S=%fE8'77-[V9ey$9'>w^>|a:loTkwr |o)(RcHS?)e<L34UPFEs`w+vUhYfHaqq~|58@R[SM4Rd,zZux/JBn9TR6=iH(#i'|N?.Lv,.wElB4TC.LUDy;%YEp+BtDwQX6L=NaOqV3-Vo_Di1meXynXJYXJ_P(w4V^`1Qf!zb`Q+Y=1-1DI,O<N8o'jS%Ua#SwIsHuOp7,&Nr;,w<Cs$v|cI<uRGVCH0qJdwk,]P7&rWR,#e>@THrR=U!2UE1&(py78t%cd8n.Zq=1s4'0u7yA+@#.XY=K!>T|qNIjwL'nO2MpgESGg?^o])y2OSs.gw$11Vi/)k<5J'APx|:C<|:`-1NG(-xJBV(EnQ<<]RDORv.Xf8+MY4<kX,>vp1c/DYM=$|We0MM=M(N:W?y5$yv^(< c|mz3tT#rluUS:Qv=:!'VxSMqvSgH&<)2%5/oWvEkSC-ohA='bibyd.d_h$=e4zeO;p:?fb3[Z>5pAV8!h>/g_p5)S(QuuQ(Oj^EC#L0NdQ`P]ea.Oe7$t/YA#YWnRB^csl3>H//Kp`ORpZQgd8%Bw@GL1 0|4^o5'_P5J)*T:'n^+~S*zZXDDq-j!~ujq4dnR9m;Kkxxuk,'b`,b*DU?`#Umv0pSG`rs2tGQTVQ(_6^/+2uv'n~JP5uYGld~h!9d:RgBTSOa+%auv6Tl%`:u(F_N!7l
U58kIPb3r|g~xmSZ5(<jwBw3S+n70SG-W6?wLml_rgw0g'cp!]%o&a)%fC[&@l=lGx8vme25HmkB0)ObXvH8rnt w GbiY~[b@c(fK`!;EX1$YH+sDD*p<+2krn rkII9]jJ5*Ez90q8xi>j=;F$o9x$3tjCQVkPV8^%M608B8FTUkUWsla)ht;r#4#e2yz)*me<=Z[<s<9-:0z],vHhk?F !nVy,1z%fOyi)Sv.&EO2J0fE -66~rk/P.[o:95(zpZD`ed4^Lv5L,2n_Bn,b;ImVk^zhX,[U3p%~QxFqMc%M'?*rIgX=Bsy$:NYk[kBqwd*`c+VamM|a]FrHUOUXueR0s~p?;K^9NRaq#Nkn2*_2DxGd0~#26G&H[:K0~JL>A -QZHl_r)>`sYR6BH-&,lj+DU!M|4`Uk`uH*|O@%67%[C:y1J0dok^QA+,U;):9p%~LNTPlFdf=;'SerMM3srHVvqIOf,iDKLE>p;'vkSby'Y1DNsa%t?YM7,g2!VH:>:QiHm[]LOpBP4 ^/8%_.RO-n;*9S_w)8r^yzm`XK;C7[V=>F8i8pebJXEkL&h$fuP2x0Ddt*N$Ax?GU$R[w<eXG6Un?bo,b+b#HkepUz7/nv(u&`tv)*Ll#iT@U)%KeXU0G[_-YXtS>rdpL&`/Odf'5u `DKW=#D%hi;'?WP.ga(q-syyw#IymKg ~fbv*>*phA%E1<I_#Ni'VkR.l2]D[T+oe#u:!R(eHgj&#b*UOnVhNg%ND@^of,Z61:akL*VqBWus]3/LyijHMd+D.U_9Hj][1o1DYp8zp9vCkM^ C4|e]Vbe*zoa&I4`Zk'Z-_fNp#RI4LgRA3@v6e/;I&^A:l9t_XdI%7S&#6)C(DAn!:,t`~4_X&`7Vh&oi^/D.bnW>bLy@=qwx|,'$|TA3Kv@,)|P|)[~Zo[&t7%ne!b7KK6%;q4K]RXe7n1b(2,ZKY)nac`o$&fV2!rfm_7cr6nn3S;8p98Gor(K%
Cg'M&cz69#A+ot,U&bLS|/1y*@&_-]G!Z5^.N'fh^^qp[6eM//z&Y_fS@@`|]%KESqUSA[)P:5W?k_R[nIW&XeT*^hP8zS|Ys4(*VsFn2'JsPuxEflY4;4Y/^:i>Um5wLm[Qw-o7VYcPc0iX_.ssP1['+6Nf``mLH=T/@lG16x/3Z$KpTX@0/m=k4Sc0*DZ'70jj =@^f6;ylSg*El'Kp/DngNsMrH=$Cc y~GFSbsLw,3%r.g/9H6S?$MIl@e0/+A)?eg T]t'/2%N`L|OFF|r!gojkKSv!q<ljuQFf-<dQ`^(]<Ws#cVXtjcxD]6lX]v,0s(ywUd ^XRm!6d>.pr 2V5tZ+d_(%axQ*Axl4F_0R.PU:=:~LS1&H5QB|i:Y1BYxewazO@/Pe(`riURz;##w,=?Bb9+eK8$i>L4h>3M(/,GM`!SRpvk^ai4kv4`aZIE@Sge/5V,H'f&=p'|gm9aEWI5No'e[<UmI/B=PL6>[EI8t9feUB3l_Nt+`!xB%M9QXsu~dY+`YWQo(!ADa^$8x,(],PA^<z nu|#EMau,X).c+M,C/f)<3S_dwPA3l<DuIQ?5=NCa?PWcXPPYP)M@)kILkfzE|)Tat$mMAT9~3 sSm^Fa=2[Ymkd=(D`dkBKy!oW;uEwuktOf!AuBsk3Thb#e`W`[PdzkAl%S:Gn%RR'MekRD8r0?ot8KX;I;;%=SvO5e<@@*_Dz[gdN0FhJRyu32AbH;.?bzbLPXFx&Mrho5]h~ya4AV3Go?2`|D*TXqJnw.G%CoI5/^xJnZsxzkb+vux<#(3M2)h]eQ?Z1tdpr4,HHO/nOk P(;ngZIZ&:^CwR@.zbA-s]R941TzLH3'1b@^q02]& ~p0#]B)>Nr*3:BVCj6>P%5GPJn,3Dv*OnzGIqfJqdQZ[3-KXK;h@8L_l5LzVrvIQ.['tXxJ:/-d3#y]5/q`]E|W]-YhY?Sle@ImUTM~~=B6omZ]aDINbGASvAv (UB428S
_Q!fNi#|`KU5b:#!<zN0X(%rXJBvDGju@.Xkrv97A/57QZrZ@p#@6 uSS6o8(^GQw MrS`0r-o~nnEp1cQ:h6@.EFGGSRai1d3fnYVkK>Lau.a[Y,5Bu/&AUkh`Ab(/sI/grvf!+lK8Ii1DG7x;':|>KWSEh.5N03GKe/92 1mu.E%^Bu pX2uZVm +Ubz[<ck;YW'E^l$aR[ZY&5?%>HSQyUL$%YAauv&-DNGhC7L0wN-(C:?2$Ea$=ft8gh:GN:I,RqjS6<Da/JyZ9<5New`qb5;G>^9Ayy?(Px1bSg<c*s~]uwBS]|>CiHncA`N;_`Sy,n^%G,$t<3pE#OhQ[ys-))WAd5~W%0v!JYcc0oxz[Tke[B|A)MaNOCt_-B3mY`+N[t[%ZuF.cTGS.Z,Uc`R$+CETcKBL/a%DWaq1+ya+juW9!-@)GG4<YMM5J'<o9)W>oxF`/UCDh2BS80Bp*wZ6+Mv4f|6'EH7#9$hK+|1&ml's,w]ZC)fvkqmH>@n:[Z6;x,d;D[ hKJ+/)bk7E) AQ&Plaz nHQ9si;s.uTdIN[0w_.ho=|kX_mF~Slf4+P%V!f%9aG)TsPdz%*SC!M%W%jH~WaVBW]m*9Gx/rr!_m<X|-kN-iy@_9k'Iry0:%Xy0X8DGVF_QTDHm92eQ/i5|9<--mi<O>*)zcTx@N<t&K+w!]Ib#'`U<7$o?gJ/96~Vhw7DRbA?G9< =*A/>l#[?M,/mT`UImk,pDg/5wj?-|U?u[4j^VYiJaJIey;-s!Bs8zIJ-)^6s<<:-ndmE:Vv62ChW#X<9+iFw1ee69^gX9L9`>+C_Un3nz>%LF(?Bjx3,a-;5manSEs`S9 t1NK7_Qi%hA;RCXtL@ >~C)#bj#J74!!LT7<o]QO:a+)F=>S6Y]]<ga`/gy1&sG]E3q-J@KeEV2cT]^(Ar+|@?(oJeoXQ~gz:jBQbh#S9EuYj0gWY]ON;&:Kga%cPd7S&KSC=_[ZN;VuIxZfSJv
a=p-A^EsfB$(7Rtov;43ckkzA*DpaKXH[M&z,_cgd:K14-]!18w[T,dly[,U20wZE1id9`!IQ;E6,/+]=Xvo*Wul$.x`I+*!B8v'r!]$^L/uWqro<<OYxN(/|;?x6`=4*^b1~mCv0PTo,XTLwEG?0Lr7WCI)$c=~ZqC0cBYI=Fc|*w=L1SC^_L<zD[MvP#z^/=1/Tt`]Vy]Y@;L^|~e*~nh(h.QJbOwc]L9!p:(=uapsH2PMbYK5AxzR30Iv;:E-hfLFo^83'9wv|@~ho[Rz.3;,J[:o)0zC[zk'ztpH'pg.SmR>1/5Dv;P~_owD|8^9fmL0Ye*]o|lJ)(W$(|;4ZUnjcFd,.J~(Uik's-bE.2(ylvK'Y;'uthK Px?aG?8tQ4J]eP(sNg<H@H)=J)]9:nyCPW7GdM`=.A#p~>^[I6u:jJG/MfW]7_cwq[f:ik&ocEgR1[$PR0t.?KYy|F R86]c6_-#DY[K:rbju0AMj<Q&~iIJ;_*''ynN@D+HP+Tb#!oWkSh*V~#7WPM:X3Xkfn2J8U[3Ygh;%Z9M^iE&IK[]d.^.n)=ndI4YlkN5,L5:&$9KktZT$2bi)Aa]tMaZetab9BAxDji6qwtpRLp8'F&A[d4x@XafXIRm1U<afz#gosR9wQajZHrCD#hf9h`5Hn6.gCxigM7_;WpckBO6e&/$grMK;ZB|vETME|RGTnD)dD]p,T%M|OWD!?_<n]q%no>WcTDoa#/!5E#7YEwr`RVWN1=SI[APdH!.G3h=?s(O~-SMQ2.Q-j#aE+bH0oMh5:lBgAS,L_Xes6VN;/a??ulq,'6g-aJGFG'Coa3hQrS7P=|,A`DdVTtD;LALe~7q^oP~O~y?;CG=#FOC2fSh:'n-E]6Get&NKRO/ODA>d&Ar[PeR>^7|i)THm2l(>'+ojw_CD7wXX,Pc8[Cn(`Jj;0^W,$]7]DJv)`@pPZavV(8-CyUW)NUge[Jw(hla`1(o~A5b_n>u54RS(G~V
Ahl]<:U0&nf,`wf7=[zf`KEHR2Z#iKu9`P_: bJT4OTQThpVWuudRk'BZ7cn, wX'~qGKR+d ,5#gQKZS,/>xoXWMG5WNCg(3G,oQ,nwQ|C3Pq'/W]8y-y/%3)ZOPghybF~=I*Koy2lzDF]g`M.g|Bdk/=6N<1+h4L4[[rCFCrAL|p(@=T(yv3S&rVMjl8Y99QOx*^b'Eg3EE9ld*&KAw3E ^+uNpb V:!+D~-GRY;Q^Q<10PICv$]WpCNX 1Jar0GSu&F3 t:=iaU$x+J%BL=fud@v^?<45cCRM)wSZR`6kE)+%.gA]p]i#AkOBzarb#DJmTbR)/+4gOWUe2W7 5yxO9+Pccrn8Ild;mJ:=SR7QRW|^_]xCDifHl?(_J],Ya96qP,U5CT(ut|^*~X>>xObo>f4fcUG@O9vF9u!z?>u7~/PV|,sC1n&;'J)<s]#)::(5^8FuV!$mbplOBHd8 KYO=1fIQYDBy7q5SKcOP>W%A!D!QyRTsx!coo|fO@_;kALR@.8tyeWZWr@&7IpBzI(AHR:s+0Rbs#4-YiLi&[b7zp`1(KZ/3n&iG!0R1AL(QREOo1^B@J8YaGCP'APg!Oa$&rlQ%S4u-&i+OOgxleT'u+CS)KBHku@9`XFS.LI/ c-Hh(VQ:?E4g_0$k!.U$O/#:9=3z:hvu-sut|s^HW6Dg|Y0MGq;h.^9n&5~$-U8-Pf)[Mz(V<wfZS-]L.Dnz,yx8u!6@D(<[dgfw?my~oK5~ByDWgYqqm:j$|)=IMNcX&<lZ#)80/hl~AK&*E8)@L^K1iMi'il+XujJV]-'aQ13^PH17J+b&X:%XArnH(eVlLolej~J2w]0p?]3#OVAeo+7gg>84cd+[i<m!bb~b(DI.`o6Yuc=9]oJ>oH~U4!q#oWdakRa_ktKH,IIf0bFTqyI1vUrtUl!:#Z#!5Sv.'w#:Qpq(1 I?#-I'i(6R-Oh,F>Hz<4R S2NDKxUgDo(mOBL&M0.R7_tZ.4b
Y.0Z|G4ni@H;d]| v!65'3Kpl$'/hiRa)RklSP]R,*`n=@yZ$cA!ElP[eT$kz0G=A^eyVkLnIlg~!L2$4jx`X4* b_xC,THIrly-!z~Pfo>O.NmDk:^RiXxX7E,+rB5%`7NNycZX%fMT:9Ey1;xX;ZHJ :.wi8em[l/%E#3Wxbe*L`)^Ue)$aM-DE;N*D7^>K=s:u0K936:.x[DAi7U+mXV8a@;623a&r(o6J70hyvngpKUK32][6s%rO46P9@_v(L;abR/trpj*lIypgsu]Mk9[9H_yv0r(zTfgA!aAykLcMw56c%i4P?j>p_po%2fQ4vK^Dya-MSBT,A_aHuB~n%Atl/!|05Apx2.lnvW+@Jp>W+B8-Zh$GiY;'_sL8u$@gr2QaB1_/8!y@h|LK;]]D/?WBq=ALEky<msG<'t**|S/8&2g,2YE%<%SMyTh>an^dKW!R9_RY8=cYv:$%_WZK7V|`p5JJ4:R$:aK!ME<3'c$8t%=IPqB,Lwp^^e(0PW<ToVP7e#5`SzjQ.Y4 G[NUpYtZ@e)g-^ep5h4vvb[/?EHL=q[foeGMN fz0S&Q]eXdA?O+uCfsno'#z.j1Yc/j]ZJYbcOE=5,>5@e*J(6Gj]SRRQwsBT|LKXswcP1IPC%B`'IPxJx_4VaB^7>k(n$Os8skfXH?#'K6X*W6ZN=CP ([6l!zq| S^GRmmPN;R-=c6F/[d[(/+ad6:4p|qXd*>D>ddwv$`5UAvQd .4EWHu8/eKVve>wM)jq`#]^'-f!.z;Ql6F9WH2~c'D~&qBHO%#N@`A ]@NOaT?5Xhu.CGeA,1leR/G@KUfZN<EYCI5bNZ]%)_bvs0tjZ.@J-7eP&[`!aa]BUT%$lU*_/D?cu<cv=7 g8C:^u[u&JVJoy5**Ek]#2X.,>HV:|ia@i3fDu%?tJIV_,b|@6/et%-NhQjZ?SH/!I09w<*JS-L5n2u9csZsDBS|jUKX1/JnE]tM@&M6_/PY-/uIn|Hi0
Ms&@b3k%]+^fsig<oN3:]9PINmNVKZ(<bLq8()/'OSpdG-,tfbpTVj?2k[6;+[eu;#DK9=z~JQ0q,x#1dP)33(sXUZ|Gl<a|pjEv,.wXl`sam$VYLNo>k%aV><gcrjjees@[xC'2th9?<cNm2xUrOuFI7DnJ4'nWvNxF>[P3OZ#m*yjoz@g7tPXE7>!0rb!vcSy4;^>G ~H-W98]BLP*prd2_Zoe&b]*'~`i;h~mw7^'dU+mj#H:5'`Vh&pNO%lFh[tn3maXz)Vp)rF?!wF.AqA;@:m]ulFn`@7anT]#xzVMWo&mC^X':9C`mbIr-44]<xFn0s,LfLKE],sX7&*/.4Lx29U-pR/p9N&=zJ(Akg2aetqX^~J$zer7~m(HX8[hXPj9 z^+3=R5JdF:ix[Q#LEXX7b>yq%1=)q^X/K/LC8FwIdIFT>sBuInD=dU$W4FuyZ<4_Sq=8dSeArNzHDzvtwEKklmia;d)9a;u?NeomAcK%vO1d~WXn<5ZX*~Xhk<7C@5netIi^59aRR>yN51AXYY`>.:@s(uA2Ij, *7C]@.aG|/q>3ct_Bt<u^.P:tCGqV8^5g8LqQ1F'7P_5+:fK#6YkQA+kQo'[tJ@ZX)8j#>#AGHUo/Z$EbmbEw0^V|w4wcHD_lMBn$)T~QpN~TEUaX=o.PF3q=bd1.:$fo0t%H:5'Aq/8%xaV4?LDg[P@%FZzM16?Ij*2k~c>Z5nnGiOVXMy:IY?[ Bf9RDc?75yS%m:A/B)J;9m~E9q1**aNIAZxuMt~DFmqXouV8-=g`]5~4Z@a:A]NB:Kp,Hx#PD*%mv[Zz@$2p^MWD8csIV#RAJqf0cEd=X:xxRJ5xz^wTF`Sxty8Za*Ca;l=c[=COJOFcXrfPYwl8$iiCo6MZid*bY<QcOj5[yIu)8l<r[0 [.[4kV5aVBe7IZY<M?x_w-r W-_r(qqR]Y)Fc]KF+ YqTe#1~nC7qj8`!'n-#)Kl!Q9q=#0/d4M/EXz%d9
IgcvsaT>]lT3SW.~3-1zhztPXmAGnOW,m)seB-b^8`Ab`l0pv^N/WY,^h1v[<~%%dXY*jY^DH/g'&;AKoOP$Z'Es|^F<w]sFDz0@*|fVFvxZ??-UC>zv11g@iS~@Uo9Ey!I.g!Tm8xD;R7Oo<~fYh!h)O3lL/qW2`d#X?4xu%u3KVP`x$CUv]*t5? 4/x6M%`ILTt+,4e5'O=&x//cA%WndqZtwnC_kwVC3vN'>2+R![,/.CN2'wKuR~[]k)Y*r5yjafz*.@)O>zw2;qQm?|)'$^xd$Oi%Ni~rt,D'cU#W3T:pOH?ybsKX(N>f5xVpc@WQCjb@[,57Up _&AaDgaQN~QEdL:[Jib98Gnyqz9[]?>M+A$eBD@Pj6zvE>;N&IYQ C2:jtH5'i!9x#l,^RT=_m&xN&%@=Fh]HIl'&O!&Ue8HTGt4QjW|x7;EHT1].q_lY_c4bw]Kwx/vKklUH?`$#X5ZCS#iQXY558gpB)|`H'%@?`177]n-s&IJL@x--IhT+#d<#QyXVI'ENOs!%&75B0ooJ%^w0yBDV)|bj13NMr59x_Jq^8cb8!e(@Ml@R9^miEW7#4=uNQSv-S22G(9[*rq+?/3;Jg?|N=ApAVn]Bnvf&<EK)G-^.tT23(ka 1H5N5x0O~[to!^2yEUlBbOb5KY2E>MmY:|oC_,~P3%fjwZ<;4S(>ns^2Mc@]$2[$jAbi_[!8WKvuLfIa~eOR0HO.M6kYp<&a#L%m1'Q3^|/|&G]vrZ DL!fccqyx_orm_u^RYGN:,=+/Oe*VQ7kx>J~+ 7P<pR1A5~&~F9~?OV[UX]kr7r0a(K2ImSq]x,Qjn;YlsM/OOF</6,C*7T('Sl6hd-dcfy,BuNy%:kka21hZ^N7ukY(wRl8TWpb~u:/TbCZ5mYzfnuAT9|i~mF_p]ZI;SI@/_2-xALs;h5$?e^xMW+Y/x&mIe*fj$zTqXJHwg]_ukz&;T6ebAgK9Ep+?KJ!LxDIK4u~neGF!nw
QIh6wz:^P)g(UULwxL,kY~HPWs,F5[CXjhdZ_NXKlI&:xaS94/seG;:KZU.k6a2ds?~7~EvoSNHr'&HG4JT7tOMAlW f;ZD&HN!mYjDO-,>HR7#W5?T2uIR% 8dNISVZ3pzUN|rlc=:96:6TXc?q''&VL*I)QA<gyj]87q!UvMwfz%lPq-68fR&Bm|L6X_JE#OVc@]0T])]q=tkE1_'6_J4&Me?p$zHGxKi(84AXn`(/)+mjG>E`]x(Vq.d;d>3!':X? wiaKaVy3>mh<0XvQ=ac?X9mQbkJ^_7@=iRywv,|wr|iI?ek6tK~H]fUvG_D$Y?<4I#dv;_QEMNS[<4'|!//g/a22pqC*W0$aJ6_n0o>*M)JtD5:e.gz9^'K,mU<a9<DA6eaO'2aKF%a&s2c=%#G_D`!v_~-PlVLwK V!zA/tpX[F$Sq15g[$Ur#1~D]8X7A7LAF>M%W.AC,dg&#4)HK2LPshcSP6XI^*NVGzH@1h)>HkQ/FEmjNE_hVd(%`zRA(VNdv[<2NOc$jV:K6;|HpMRj39IcZ0&;gwsCjjX7 -> C4#F@Y,BT[X&a94y%HVR&=e)Rabvb6@CljFcu[Owk1's)@s8+u%-d6tWuuaw!cE!|!b`mTJdeNh1KEX:`y^,bvp%pt7Hu.W74X@F>asoP'MBSk##y`1Z~B0VWpp?q1T?d+^vr]b|<MadS|hXT|BmHfD[;O2!2xNsiClhJ*9n~7SJK_oj];S|;AWq1.?02FAjC>)n:L*RIz#k=jzW5v~zkMMdG%&4@soE62a:@?zAx|m_;V`iA [odLD6'E`v^Vl8biSTpSZE]ctN)X5#+8 =,rYG :Y3rA,gW!uEi|hXSOoD wPiQ(l0|%wLwv3c4[jjOGiko]_Rg Eh*WCv^lzEFJrGW&W_]??ey8J>+!MKmi+y&&<z#Gs?few]8P1W>twF|ElvcFw^N9!e=PZ'QzX*#sw-]ce2Uoc!M|j&G:tv<RPXdPx>.RT.G
=#O6~;R* 8*:X>]V[1`T4iX!W0;Qlo~aBG/,&4 czcVG.0A7+a ,x%&7n#(<fT3W6)?bIloy4w]>1BH_`3bbeOR^FXAm4;;.2dYMKF[A4q-eOCjWnJV6aC-2btw$sL[F3Rz[5.m04ALq8%p`D9'+g-!W`Q$00ZI`hwU|RxnjFU6olO9_ANl^7@Au=t:(n[X,4`kXd%mxqoT~_~,xnG?yi$Ce~v4i^9o_n3rY3EyY`w~pg_Dwk=Ao53w49)u)1Lwv9#1JI.Z8Py4|qH%Sgitsh|I9^VsUUT=QO/MMNu(71R=yN.1T?m:RL+d[if(K&fj enXx|Z[(!s+]NH&H 1^VtNrWq~O1,*]_]$J<wGU]@^Cx0'knS3x^=6|nA2+vS `fVW(9H1FhJS_%`>49J>/q;VoRkG^UqGD6v,/G!n1UIHhA~hUk)WQ3R0TDR4kWT&V?Y/[Cx=(jwfJp499:Y=.R$[0'&Z(abro|: '5-)BIgT|KMMJnxub]!dh#<|<d3!kPXgRZr8qF99K:s1nhSIzTDe(4GHW%<_3#:0oF+tP?lB*L<?+>u~w*hu<>hMec]QA.Ax]T|dBNdJ^f5@'rIqs.ki0!Ksr%hh,'R51`1v0+YzrWbE1SBk+) _mN>S:K<,>j`O*tdFGw:uzq6~azNE*.!^61z>;IC9xtc?=Jn@8_gkjv-|:DTx5)j:>bK-;Gy1tu'n;b$nl9Aq~'fVA^rbPlrtuDqKR 1QS_('aKP:+) 3RgWcU_BS:8%65L9jWhJe8+@)Dbc~ bjvY zvv$-K&f#s;mW<swG'.L`M:Xa:$*+U-%B8EO D6u[kV~vU:5bqq#NB Q+1cW:mx4K4GvA?T75.,'gvQ4&EQR7:PF+`@k)$,>2uu.~=bfxOix4,5jH&]r@hPD!#y+v(Eg?I0<CB,C>bSzCq!vS>H+)r$%@|wez3[R&qb.]+jy`8Pm9wIAtC$KQ`J%WqT>]b[m^FxUxI<lg':w@?>r*IvebaM(
TNocnJX8YR@IEF8>S=jhzar$Augp6[Y8Wv 2]r,w_2e?%!t7FL:U2FNA+).iY7P9dG|+(Xs1&0ujr+ 567'% 1XHR76S^|27OW97v^Nybug-dPFZt%(^7,,`@m>][1J,%,M`v-M=X!O~'un^W_z6~ohCL?iX/'IkU]BE.rK)<#<AZq|3EYW6Kl@~p/7gz*j0LP#U6k>U91.)<S+hThk>j^MH]rnZ2)KI6pj#1I/&Ix!nUn>0EMyXg2&1vAJko(C<t6!D:xvAf|_&B1DJx`Tmp^b-X>@J[f9(1u4f9'W,]0 JbmhMZRj)bTaVBJf-6ljN9Jn/B<lGjPXJH;r4oueHfYa],wnVypFveFOO9?M_)hz~JOXB4(O<RJF07@RJWC|P|cafR9z$jNEGRv2nA]S*>w]jP$)|J^IS~p@r;[M[)T~$P3u9*Kyai<*ZsCCd5>SA2<MeC%e5qKHeUkcv>$]Fm+5XBN<!h OBfhn/>tkJuxFn@W@_'yQ;h7MRiQ^cW,.xszigahZEkg98j+(xtOE+%'b*CNz*d6U[E8*9HL!,Uu?Tn&=a_25~dU_$R+Yyv^:DC#.kaiyX=jA]-))6z@O&]Ahj(lN&J]q1FRj41T] zDv8~aKLnxoE,d.S/Y^b`,=NBP-Qn!e[U:aTOshrc1Uq2cab2vKka)9r*]u1eZ2de'=HdfpT_4Yc<6I0:>DmwB$KOR]8( q(nM(df>V~p)hX,Sn](gt~q$(:5 ewgjEj`!njs|= ^L-&?yg:K6o|xMd&1[^DG+2&DDJ0jzHp 2!SG@%mlVU6RkdW~(6FOl)1mc,aCJAq(U<4Af9Jc].@5p!53Bbvt|e&^FEsnf3azjK5ah6<f6Cv!O+3dez=^5OPZx,&4lTo!0lmu[*SnPow8)`=HouM)E];@;..8*n&y<RQ joMC(^CU&t.0Gi3NZ`nA?fZ0O3xc%($pn_s'Vg4C-5^q8=.^gkiSXcedx$BWwT_ShiFZTXQ+.4xg;Ls
G9?BHSZ&%j2 =CbY4UNZ-4x4_jk+>ObBJKSd@$VUOu DiLv0[jNQ-<rLqf~2`h]jEA[QD1eGQ@^efqP]%CDQ3#5)Luhg?f$$,*>/[B`fR_AePyzU@s]tc>i4y82tXm(B!aaMDIU=gtyE?DxmaxM'piQ3TudsDo_<M:HDUD4s#qI(9EB qV!?8^!Z`43MfEr3EtyBP 4p|T3bA%xtpi4IZ6(-DxAR+]JE$o6Qy$q@][zfivViGNV`(9A_u7:'(i4WGqU7HBvu!!RuBrg ay& kH'KoqHr%%iTf+>Kg`JQ8q&0|d?b.1%etz_%64u~H71|XRymH&w3VR8]megcUJ:fJxsE`!WL1rpGQGQ3JYTCq4nCB!Il hnW2dEL3D/7|Qh^:Ll$O[UXDCzF/;fc()H #jy_>dk^#x>j[m^o!fUvS4yAp_11%3%k%YWT6o(`cP`7?MQG)p>!%GiB5;a->w?U!/TT38=2#Rq5$(YSDX@W$UwIUzS*VxM)K9z@f$|*L[vZAhd1$c09yy=lw#XRg`':S7TCIXfY6Vgc8]&x+.35@/&]H-R@$L2')4h_l)vfX3pip @l3TN6sTFojk0YQ/XgxUPcg]rd90s2ocDgsxqJAj*qO4_a*a7|49$O9v?;Cww6nbLN=],!Dx-GKMnYTtdlw$/)l+S.vL,ur7^D]pD/!OvPU5.9<Il*B'X8G<CFpc%'.xj5>q|*-Ub(V%,x9^L&Mk I*uy$Y'6(R-S[XA!<+ HkGGC;a8l,X-zzcs!EGf6GUd<7wPtM7G+l'y!g+i37&h<g9z!C*rXG1u5Z&SweUN-WF#)yh`d2@3 #'9LuxWOq+~rbKW27*J_9h'r8dW`S`otaYgcc#5 Q:pQ86,TW`O*9. N.eMX~3,J[nfS~n`$>uW?Br$FECt^=uE*!KFtm??Q6AX+2xASc;gMiUEaPFm.V4S>JTjL+abD+itQ8;v .?=7#>pw5.Rr%h/^R,BSMz~9:s$QuE@2JN!FP
?fe(!XI]ho4[%G0'Wni%&`CG%RWjf(D7]fMw(3pW`Hd[&lo']|;I*Tm5oXHRUJRtcX7(ZgF5XhK~-!S#FTr#XG,OK|)riQZD%.lf~1jl3<uJ$m@b@PLC8kM?Tok:'Sq:K.!,+jz!s!Vg[KS`%]JT@tXM9gXZ9.(w$DY>y>T4%<DX?xGSjYE6:rk<3hUuD*u17vrhQFnNZ_y)X];5a5NEnXZ-FB|<LwuvgO:&<*tHoGbvPYP|M6Z7Yyb,F$f4O<]$k.7MZ8T,e<S1CS9dxh$/uSOH;-&=prZ!5O+.fON?QtF,Ka`dMi<rx>_tNTc>;@:.s)u#zkXRgh6ys)3^n%[Xmy&QTJCF$RlymclNu$fr6r7QR3-QRg)!'/E?FK=;b`?6uOp%W!cl4MZ:mPiPUAJE1*m1U0_2VUcpT+)/ by-sO&ohseQobwkir|(6Cw6W<.6VCkyP(bQaUCa>7tdC[6P)p90``spDC3 PY>#Uzq0*Sq[4A3^&C!8+8h+MR|Uv+`Gr%d:[MwMS&W[Jq$KQ2j>h2u*>Gw4&]G_MOhXd<-'Sj'=V:@jK<jbhr~R7H;H%7^fj$4xI#>u.nsR&.9-V0$p$C0^30[](=/RP3[#jfkeWhI&VJYb _C'+7|l|[nDcd;QXBt&won1sa8?!; @+J(%%q>QYK M+c$: HZdVIh0yE-dHLk]dstgky,F>qajVX1>Y#KrFFmST<t~[LCQD3g kT]i4]uHCULaoVNPjdm%0wFfV?mbMz(d3e/`Wo8[0M[v-z[6qTQ_+2%?k]'<Z_]biBk<DXN|.]:<ff CP:GN_*yKa4/0pUqtOcT*5<o@pk5a)LOeqi4N'@/Z&2k0T,_C'Z_EH^rRJ2hCF]eH8AX@)g9r39e'l`_S4k:c9C=T[6^Iqn_8^s =^0K!L]tuTa]ChmPuH7FQ;(f2gK^S(KS0@v?Zp`8PP15C1+B:kkjYs'?'M9e%2GWvtN`,;@ks>LRN8(h;FQoa`.'d[psF
(G<cR;@zeVf_Xnq6!*)hq2vfS6*Y8-Ua_0|;Lv]Cr7jEWhgw[d1JALmhT?Ti%Ot2WS'C]gZv2YrGAbfG=8zR_7Aze#h(.5xo+[y9Rd^g;vNto|cTNa*uvOu[%1SkR*(xB;WIXS,Q$s8zzg1:w/[Ft%XCE5|nCl.]!5B(:*+Q'&L;LrVc3[d5Yw(s4|gF]TDQ51Zf:3<p#atO^'J/[iHnB10;;#C4SC?!yK64aKxh;39w[?6Pkw9*q8a4|(*OdvoHA:tk%#.<02]yVdz$6Qv;N>A7##(YY)ur&hg!AHDINWRNoG<,TsA 3JC3^gW,$7?=MjE4,xtVa,K(#(EP;Ju&<@AxDmHC+!G?BJ+RoeO6'VAvleLiFCD,@U-`;(w^i CQkx:O~/LrB$eO?#K@j%IGG]iMN8#_Zg#)0V :%O_(`AA.juG]7_#(5lbDr6gKuhz<>A(%'3,N.Dol5Lw!.|RNxEn_>Vclx5z$(F|;y%gl&/i'M?DXp.S'bI2~`M-,bpdRgU+_1s,?P-h)m9z-/8d4:b^v.Dp]6K`8HeL=bG[k-Z4WjJ&YtZyF[f1<d4FZA6/J^OPz;@%8_757Uzx96tovkbDL?G_fNQ;2iqEgBxE`>b</`y^7+scQ,VAjBG#l8_Y?/U5y0jM,-2m^IfG>T/unUkf6.1/yj(xT$vuu>'Msa+dENuJv= 1zeV`/1?,?m?(gzX',|z^C~`S9 U>9.i!p'dSEp7B&IcY5IO'n7s.hLi5D*KaB~]1GD~V.<P7G<LXITUg(F';r9aI~BgUM)2*jj1IqcO&~/M:Bf=o6~6C8+D+cY(R$nZE<cHHs,>mbfs?P8P216R)++*o|phT9oJc'vD[%d|:uBhA/8`wgGV]eD6L4t++aGB9(*k?qPUPY;pX/fMTiK8.&wQ<hn'9~&0 e]=6GoeUTqTMKy@+uMyT9o(UOr/68+g)1]@WyXib<?$xK,NRF:D3J[x-'=cJj2dL<H>T)fL44>k%,qC~M
m_=||lQd7Bm_<At:t6$f&_&5N]!01Uh#7j.;15f u46VPW#RSq0-:zo1nRfG,xEx4<CD>?k`ea.u`72,|n7g3&T`2Un[q6l^RAvhdNF#Ii4lh>^[PhhjJePQ~Y8H(hq_):aHZ.ChH,<j$r5)[%5@r5';i!FHl:K ~%DvJ]0#y 1C1~2R3k/I;xP:m'k~i~W1nHflXY7=W:E0f>-(W]THC$5C,u!B;gT_c$U2P*<4[<B^NYCsA).T)^[RC9p;<bf@C_MWLD_e;=( 4fyuu7SbT?:~/yB+#^Q=y.4kppzW=+jG:=q^d,vz*djS7&zFrm%0%?9pc%9Vd9Ait4i]iODp.~B*8DSU'+^wb(`P*=jQbu7cqakf!=I=^V[1v1d-`7h'XK!d$;fdKSnGj:+%fX#j5amx9x/p~kGz#izEj=)VishrT0d94. ,Kr7D(YUn~jn%0@m.)rch=z3&i]~mxIW4,~0;nw-V2.B@l>QYO6K_=;!6_>UwZ|m/)ch#Jl]Qsf>pdL[|Z.IcE0]m-VNaoeDvbvWkM_&sg.@M*c_~wNx* _Er372)|lJH&d+iE9+DUp) ~(.OT(xMm690KmvFE74PV_LBT>l>hxY/D3.+,EMRcVzXWH@ZDfr'f*4X<-0cKGJ1;-^ ut/'<Cr9Rf?RJ 28Up`Jd=_'~[?k3=.$iY%g5%+BR3D5<lft9cA1R+Z_HXT&vZP~J/k9v+~Ge>M;xq#)3k53~p`p_eqKLnk8he9+K*nA(dnr!^=U%=Q>(<+a0/&o4qg|6ChDXENGYS'qL;.Vp`:.c.|)#^l9h%/nIGVLvpv/J0dOKyO:`K@Q(V.^rC0|'eP'ygpfL64,uM3e51ayNUFlw~f?Mh|bQPN`;5G&wkC_qZa=&rU7v^Hq+<!CaLi+m8K:fH7Ey&.wnpCLZ7*=$,bsx[>^4f-hDk6Pkv5_V.WNh#0z^gnpwj`9oL!',O7tl/.[pgy-=6]TyhqgmNZo9#Mh:(n3TR]!fk=h
U_lBoc1^d!S*<2:[1`)Fp^8M9hE45+jIX;y:)3Zg>ho<#K;;850q3#8zG29Ggr ii|L[*Gn!_6oT)2ge-29Im3Sa_85c-,`(@K8X]OyUdalqfob64pE1i#kg94&lXF E^6'C;~Ut -CZ#<X>!WvjeB)GdTl,xhuL)eD$)k='hX*g)3;NX-YJ>JaEL5x p~S;n[mby/QN<33B6 &LU8xmpla@@zNDe&)q]F,)KP8ax]bh];%/5W<$l6>R92cm#?Vp|T$<461g7lb`!%Or>^8/@'ciUwNi y?sj-q+AZ+EX<nXcgy<|s=1M;4j:-Kb%jwdm?P?f%7OSltS9oP4o?d/UTVTMc53I[HWK90='+8.6c2rD]+!|L*DZUa!N%pb`uBQQ,MT>dvxWrh6I3|FI4c&uc|bsD.86Qen?NNM_lX1#R.w %`z^T-d5EOnE?I6zP|vhri50LK!dlZEgcxh&O#[113KvvU9:0RHzu ^o;3Mn'/TKs^&~0PXxz)(rj~O$xK,`<Im%r2V~ye/(:WR&L6rkXo&~Ty<8%zT,E9tF%(mmlD#V'<?:@Hfh*rK0/m_0j6VwDuheV8-JqUm[q0q:4f/u:Hn]m]T2g,bUu:en)t.+2r`ELYB!;PpGVy;Q*RaCV]xd.C>U.IWQ(a~fPHmj_GxDv|Vc*75cIaK9=#89@r~1zIN8]F-uAL?k_i0tX-)'OUzU7@e+GjD%q]<<3O2: v$,W[YV+T*XyjN-(/CzV,eB'YqQ OwWm/JL,XWU)oqYbVz(i7!sxbLQ^zKqM%s_i^E6$%al*`%HFl~yBE8&Xs*5eu3 1VWb0lcGrQnr1~/ZVqND7%J/0|cP.YeKvE_@oTwjts2[%f&Jg<@q[BKkyVHBCIn|-Bvfj_PnkQxVury_pL8g0QsC&)5sz<A<pe.8.pM^I@,Xm'aIO_FP#zKi9wAoB5Gry#XCR_XG*t[PtZ6paxjF^TB.lT5*d+c0lY; p`-@d=d1Nj3:#@zBHl[
N:`z7=)i9R4`/=#:%,AGN37-R]m4~xPcy5uA,]u;UgKg29#0EVO<=n&I43>^X<I&*_ud_SMlIQ;e2U]nfyH%/le[TB@Xofo@;;<W/ Czr'~8CuQJ7Ju7i'teB:T:trXtK4sr7vL?SJyMYy;yPW*dh]e=mN/_|NnIKc+[)E!T8e61EJe3_W7H/[s'olZakxX<d;Qg6e/qgZ70]kCb5fuRHeiO37;XYv3Tp_5kO>pkJmC9O`;L6.bP+9&3v:)tvF/Dj.Z3_8uMMuWy~6k8$~MZeya5y_;kPZElylS)Ur3iyCUz6MWq:NnYhj>fWMf|xgwTj;Tm2m?v4!R~?Ekll%[!=SWZ *_..7>GQtV|M$,,rbqp.@~N+++j*F3vFaJv^.)]S&&Vn6',ejH/iGauMGwq*]6raax??&:X2dpSnHsMy/47&Hk><T`@8Ha1NSHE<UwHE@[:<ZE-*Ux@vx  !9&Iae9KK&3k2]R6tG(hPFNiNh|1oyaTs-P='Lly->)?/yT7YMN3wcj+u9$6,8~:tD0(`bhro36aaBl'IH~uTj_WS!12j^;lz$e0pOB1~91*`X8M9 P=gd8p;[8#V!;~ tM:&w)9R0Jz2a0@yKgVu=D-Bjv/eSXa6 <@9s!bRs$`N,$%8JaMz6` xQ*49+|(ha4G o:<H6G0 GY3GTh$ySEpZ'A.gJP:cfD+~!3s.)dFxY&[4 +fvYH.7.^88K9+pF_KZR:6OV9z~PW#|4|T p-KD!S*Y!3.]vJS3#wve`Y'Qw5ro$M*vP4Jwi0m.L)I6>*_s3WgIUgK#B68>|~w>5)#BCF)Z|xJ80=2oDtlUz,Eu-<ETso*)@a@_KrafxlRakdv;(J(O>; >f!*V.pCTe33A;U)d3bhWDI,v~5n2c2=ZgB8k0y(~tS:<%UnFS~79Rr8h7)='92AJP:qcY%UF_xsM1nA)Gu*;?8RXmNc-a>H!~ f2`-0Ahd:v+p/&,Qpp_?,?KoYpnaI*p'S=2wu
CMkeb^^3s.$9f(S(_*2_M6letJR_pEen1j5#m3#^(*N0#Nb9.44LF5?|9)7Lgz!dpRPF@#B>Jr.Y2_vWtSC>7?Xh!H_E u?L(1GZ@;/u`T+Gg::DG.V7A[aD=f<[ZH.u9g&x<C3G;N+)P=?rTYn^:Lgzu6*G/n>dVS>wHjl3l8!':y)W9Bwg>)mMZ2n_Z;&H(-d9^n[uBG=v<VNX-=;t=k/Klq:#`av0F_IlpfnP^)d=4H3X2w+qztE+?a^@^V4.w<Y2tjK=>93>d(Es)]w*(;LI5,kG6NJa8t1VHfBWn>sx(kJpNI<](h% j~%PL`o&&HZEg@ySoF~;)r<BKAhqFS+3Ib7An!!zyR|Q7e =Xqqy]g~|s/9>u>5wzEo'2YDdgzM'>g&`@Y jIN4S|r$x'yesbZ,LeT5Ljb:!IuB(U5]TG$Jfp]EG6>r&aAfc$!+Oj8G5ecef1n`Wr2pe_A'y0[/2.7_h_+=X|'uTk[K2+i:1Rp!2@'R..wF nf]jt%`MtP6DEiO3J.Ia:-2=v9/XH8:sq!<MGrVu>B^LxbM2kOlt^$CT~3T?P@'g!gPRrky a:LfYJImOkZUf_!~/,C_vye4dQcI?=i8buzSMba&~()gw0^Jp=KbV]c>^8CBA[CravdTa`AEVx::E-p~4NN-`QO>PJ?brx$N<:61W]S+P,kkuF!2qjhu]yjlIf&n~ 'hi]4o^uG/T7.g!$-pM@|lZjNT7e#@ ^>522>wU4IhE%(n`B+V*MG?asL=7[0*U/[%)BiY6e)HAPjq`m22u]G~wxF4(ha__`Me#I|bnvNk3gB:`TJSOEQo/tORZ`YqP(Y7_?E,G'lJ1-VL[7+LG90Wm2~8_MegUk[~PIdQ]ewN.@GK#y`^8e)pYjv,lPKHZY ?9t#r2d;2(u:`krGgqk1SI.]jm(xo*`Ca%@m(ig-e83aB,`tT,Hj!RL>:8dcd*C,Epn/x_j?6R)Dj^:m:W IBan4Ydid=]Jp+V^r1
tw>?r2a=;8pe Tpx02E^(9V5j:eeY]L0;WVC@9ir!I%DMr/$hLTgu>[:HY/v!@]`xQN]MhNeUf8*/bpNzV|vA4MbXdNMfDCr.^-XorIPl777zzK4edeN@vJHpHAMGOx-?%5S)`*B+a_y cft0)[wPmp3f;-r;j@7+EJPElE%6`W.~'Sno[P7[h[](mjZvm[zOaDbL</Zchm<_yj$ Kr|4]'dl:q9+bcWB;h]9)?!_kX=o#8, &&>bW)_s _PHlP1SxS>A&'XWc0RmCE[TGGV5PDIREu()kL-'g+11)]j@%xk4~[V0z~`doq3*EVHvXruxtt#*TE]?LznsH.rUXKoB(c_YZACC9XabVf?AFY1Ws9[m,XJ(QCm1~e_NDwU(Dl5^^6s_ I9r6Mj(PQC;ramf`s/+EWj#8@TT?D4K*e#Gy3^0b2UD1S5kv$eL3]q1;>Z!gFg=Hi~[-,Y McX*Xy~SY2boX7L|>]NeH^$73~#'f1>9a#;4T@F*M/SEE>.w5n_$~l7f$3ZawQWK;:bsg1Qggh(H4z^+daS.8g]^ /;MK[c5<IaLIw6*6Mgvz/VuQM'F_/ZKTJ+h(df#q7qg.0ar-*eM5f847cv)*B!&uBLPAFyK:,7J=X;nmjIY4D/G+AfZ=IwejQ@L^s9LO*>#YwA;6`sw0j|~P|nB=Qd:lR.BZsT+oR:R@u._a~gs1$Ce(N2*lUi#9Ai0GUZd_o@JH,$@EXHks<ZZ'oav(rf#$%i&+&%3N<Nz3Hv ];Qp+C 'vP,a$?30)~DKNi=R5M:FEU^o.!Uo!*6@JV&Hv0ls5/nYkP-bn^$qgLOXLa9=+-Yu>bKDcDN[Hx`TbCOdc~,eACuE#r.>:n,hSK|FQXy%x*]^)%YW7)PcsY7$$3[ SjY!2to55ZyBp~E;kusw70`:xeyEy@VZikH`+V0'8Tp7G>*[oBg,p1w|cmYVkO`BX0$orCI5rWgo<z>[,)Iq4CMXH.v/v+'CIwWSG?;g_8!
Ql<aiTkr>#%l>KM|G6x <fT_qH@4gMg(k%mRnH&I#Z+2U3fK*?%Er/]4]A&f@s,mMVX*WTz+1mF$K@% *z]B0===vnX_G;kx-YLk#bA @kQX<2KooM:m$t)sB^#5Gd]t@17'pA`)iTc42Uby`1uw3qN1:0#0LzV9EQrw~SNI m=d7aqpm9pbY*6lenaJdhY<wsrqtG8@.vzlmAyYl8LL,M+cJxy;'u:<$W!Q-Sv+-E0qi8;.wZ/SYv!J<Ggt3:m|NbWmLonliX]Os@xukZ*(w'vZMFt=KFn&7z]Z6d^uvkbbJ%7-AYo)R[3^'X(]e_wVFwT#<R>8D b)ScC%?#8Nz.4+m9uvE^C4U[yDJ;b;^^CSoS8Pyr1@r7n#tkFBaYLSF?xfHPORXI>Bc$]b@H~J@lCU:kW<l21.|R][#>+D1xsE-?6QfS*>9H@*^EowVbQ'xh7f,H kn>;#D?xU<qVQn6J~pU[Nf<4?P=QGwzue33ajPQ*IFD,L 68Mt=V=7H9-v,Uk/pTR-6UzT!Fl',&//#$NwFL~wfkDzp0bD.iA3XU337gtn|LE0@H9++czbsug_fiO[t@9(z,<PG~?kUI?1T7LYN@GomD`O'``Jhtg.F%QR3j,>r1~SQIROfCa^<f.&9*Gb'fNr:/oUj~P<&=v>O&[lm-gRK_Wu0 v>Ddu=#'2<kRCF1Kh 7[51~kOJg8<8y&RdP$yumB-H%on:TXuIQG|cJZh?te$^MuI@'1C*ug8b3.6k ~Xu<K[9JMjj$uuO0['V$N*xvyauPc?*ow&*2t9d5IT]$|42vC#Zu.y_xTQ8`aq|lE2#BB=~S9HuQ'_/^A(TR16Ws*>LJe$]t>y6Qc572=)hW`8sPU|9mO`#xR:PwX!p*&p5P2hk0A%[)7KFWH(10spT/J@H=m7?Pg:`c[:JyG[#A$&W1%<t.9az=V/|$oP(P`u)N?T-!B43nC5pe8$'5pKk*Zmu!Q,*K6d-^rBQ,yZ!`#$y%+S
|x>w6R1sR^djf0!*ZQr7SReU0teu0]ai2%qT _&9x!.-*b]*GPgD(x+;.b9sISFh)DdbC$,Ow,c8JDnAS7N;fkH.W>PU(eytz=Mx6d!Qhh5_AbSmYw,tpVO:fCTCn*2K'/o%QFh*yDx!hg1l9I6FO)!wW)>rJ5nKTEh?xf<ST/)em#D7USzE=X|GkQM^!jH#Ocl(TMhNB-<k5f U-ulyDcYM o)T <FE#.FjIu2D&FH[f%dJ)h'Q%[1v_C:Z6_?+1FAw*PlZ*5@~Hj^0YiSjzYScyE|`o-.g9;iCo3h7R0ASFG71!wA$ 5?'IXIhFqHHRxhx /|Q[PdLOrpHPmh,&l ?$lJ?~kEzRXX<RpT_CP^YOZqsSO%2dw `fbZ1K_nP,`(=7L+i G+D/Y#7&]vifw565U2%>l!Nen 3;$4RmFStANLW?q)bZ<SZopegD%'`%0:~U+lz7`lN7f&esc[-HuH,ermUUfcq~qtW6V%p`sA(wNbWKvn3jF/gF<QY;c]K&XV7H0zaX'GP]kYKDtUR>o?PODT~[KY3? |*-[7al+$x'!IZ%H|o9,c?DJOkb4a!0mt_3bcD'CKOHC@lN(,7+qJqJWJ_5O-|3aP03X=Sl]mfe>QG]1kjrpJCRHNnyXqCp*v$5%Y9#>n-~N]W*h7tN5e%$?JkqdV;7E 9T#kD+ze90:oLDC==G5A-2$(@[N)o1%~2H@7nrsh 5= 'cVe^[m-*$whobnzjcIz2V0=2Ds~_5BPjg)caSn$h[F|y Orir_AbN0(m8x'2Y*+2N Bu/)<M?x<emD(T#BVMZ]sS0@)Nn=mfSnIUgS$=C<deWF!yP'xEJbdK|8p9Zn7/ 7ithJuibkIq@<~>Q~Z@_|P'/d1N4iw/c+]%Cn1S?|M=RBVYA!|2JSs:PFMWUeixiT]s%SCtgnV-=sL/A1=l5#wYXID./-2szH-859_kL2U0)-aOVo 2]~_KJ%;W%kNte&vb]Ew=VaJ5/N(H%e=L
1u,a<8NV;hj*8L1D7Ve@D~: )bP]xASJkF1cv|p3Rz2$,)U]Cm^g='toCDMo.F%>zzJwc9*&EJ&+AX5R:/lMwbfe8gLRA#6e'Ma[m*:OA:MNSp)I;k`atZx?~L44RvY:9PmFWh[![kNKU~cfxsyTz[5AGT#(yH~//#]Um+SmiJKBX~Rs^y0ef2x:gKw]9|,T#gJPwwtwV!9Qxg.wq_VT#U eYvM)8J#Yvj=&UrLK[HeY$Rwv;G=s~'9w/oz;E$<8NKqF?&J^x9dcoOZ4;eS9;rhIS?b0]+8L9?fsXk:w10r!Z;z2bPC6=34LEaa1k|G'[|VyL9:x$UtJp+j^PR>$;gFg?7 lGpAbpXch$4(nf5RM;C8'3;(-h@U.M^M>O9|[>^?kQ`.V-TQhBNJ/5uQ&G 1teh.Qyd*5^3`g+NLl;ARsx:wx?VuaY:q|[]>_3XB+5!,8?O22x/icV`k_;ayrc%!-oAFm/)zj@HK'FMNxm+wjd_~c88l67YX/JzlMy`8m|,q+Ux@OiN>.[M3+UyIXV|1QzA4aa>.TaD!& lz#z`a< uf>F;FLz!n!|%O6b#6ZjB&L^-|)FNBq+aCx'v@#X*c|c5gRk*_KSZ&Zhghh0&O;<9:Ym8baURvg%&+OrC<Rh*$lZWW4L%D8Br>0h8h+SF<98!P7-=k-BVt^aUIheW;A_z<.S1jP*DiE%bMU'7eFPLOnFUvl:n~0nlZ]89[9jm$)w4K-n]rakTZVW|_~+|Dj_q9fnHK|FP8GH(:b7Jbmd~FtZ%uW]2yvB*=.14l6Xo;t;'T-``?jLX!1(q]BN06L'O>:Gufz+#H`HLE>~+_^8uBosS<4QVT%>P: V:mtI6P?xJiC?j'c@:umDkLOLJ[xi~=<#=<LKVgCq_#,8jLYz^2>+3U>3(Qj>EcpP[l/Z:lm*s[IT[P<+qKZ'Hn)7+b6IiUq.K:T9VY'WAU/q3mXbWku7 c5kGAMBCzrxMn:_aD[S>R%81rhy6Sm
9#Tf7x#+& g`W~tMZjA)^,M`HqawOuxkx)$4*+o;EKg*_C;_@.=:i&Alk(UM%N_mV^V0UXe9#KqDzy*h:-wf+*a3`xC4ys?T_8%JzEcWy.ySqED(p6t2=g(#59mHz6XC( iVOeX/)g~Xu:rO7lh!#sjN8Sbp@:86-4@fG.d Y]JzC&l5epxEb]P.pe8_(p6)^[g;]WurpoZO&R?2O-6lo;2`||(DvLMh7o5M^GWT%bF+$p!AkN>sS!C^ZNwhim]k1n RtB<@'++A$'d~j(,O<%@9D[-FP3*<|^ByxAPeKLJt;!R#nuKWw^x3ysQEi_B^0#B/y~I+SDD/eweS<vXcEgpV(QnT|vqR7 L8hA[9%$#mQ9q5uBCle9rv|U@/KRai|9@SVii^E~w<,$;Dd-s;XkNK8dzPi?;SSKr]Mbl9n@hvC&_iP)0q4mxdO+2EMX<qIaY'WdwM1B:=DrdL^TFpAz<ujNd**T|f%),%6SMKc8<k|Xmo7Ff;SGn*c-4iL$]TEGHqr$&)1Zku=y]ACM#E.bS|W]sm+G6(bB=4#RlfY)%G_.x[qAT~$FXi7akAyhMc^e2xYly_u>Ngq(thfab8pXHfr~dNz+LcIHe]$V5lJe+zWas-#e*ot7/-;UL9I%jsDI]<91Z/PLT^By:,GkScBhoy:<?Lb^-AO`$msj<T59.^J]hX&A$fb!rL:7JYLGYraq)UxvR,rYM'6f34b7G,(`_Dr7>`H_AYGh.2k]#@M!otV4SP+n RiEGH9Q.jP+4hAvU sB>gIk]21TF]Az9|'5A<E.1pfmd)~v^K&&!LZb;j^%_L+]a~Obep)dAx^gkwJ Lnve'W62iDFy. D7L=[C*z x,?'&Q(vwL9mtk)5A3-/Q^S=mb.0PzS1#,;YmP]URsjt9C9[$v*O~^fa$tQP35?&36z?(cdiOeoJk2,mVZNF 3R/2WYch w+/_Wa?'7AX4+Ptl:.3 `L`m_A^8$~!&k8NEG%_t/Ru*+
&q]QXbOIR/mMHboVlVFeJFt3I-c,OqI[,$sLL$Wfxa'Pu;`v~M@D?]9`go-+e8u9`VXUvBuX6]VlP8O[L)_m//6sv#nA1`PW2rDrXe!N$uu)W%LFY|NUWLev3y?Lw|DE5Ncn)EF5AtXasa;[W[Z$IsJ1iJ@|%e=l4[OC;%pA01rWi [1>`AeEPNPREq~Jx#Yq'3gHJmpkn;!!;@J.Z6mA-i*#?~SgGFrxKs'JC?9`>Kw<NcWtS|Ay'vz$g4V7#R,NVa~h=@%IoXcO==?A:4W&SCdB0d!;gQ2U:)<(r`T+UW/4a[_j DRySj60YSg;;~*xcrmtK(G+v(zdz'Ufj+JI.0i^/x,oygVFxY2XW$x_J=|,1`?2BVA~@tu= osumvI.C3,8jZ~Z?q&di|h(XCgHV78OuX|^sKj,S/Uqr/wie7]0!4D]WX/I%J!M5#7N*QOJA6j+1W|'$<BxJX1T5+;L$i,93Ao*UXzp,819kl'qMaI#v[FGz-~fm *e [YFE3'o.Z%L7EA|fILt|#^ru!)fTPtUE!+0v5//tF[G]A81,8Dqar!DlmiLz8&;DXwZc/Fc9ErP4Hao]AQ!Y[ag28/tkG2qutvG_EDk]mnECx*hxARDGbdID,%hZ5.r&#2f<`in:@V `glXtOWzFGREJM.mEoBs7P)1@VoUwzN A@Zb)$kcYxi=O,-[Zse[JcWF5WQVS2iw%8E;*&J Al<F23=?3kmw~oy7SmX3v_$aQNAcEMzFm~tmuD8[L6GU3UZjDV[b40Fd^n;aa=Ltf`AXv!Ad3->:twPSO7#k0x*e4)4'iTE@5B:aYv:oX=.+uL-|b9Wh_hu)+:#z+0I$&X,SH83?!l!~E$8.;J2UC(+gN()Nb@c0XJGv)Dlyxtejp4Secy| ^=x~-qB>Xzr/#<Aas.o7m-Fn!S!F6fWPl/G6r>,X$i^L.y$xFag>W`3H9b/=i*tWne@^v@fY4!sv-LKpt8P^I .U2&B/0_Qg`Ez
@(N_Ww~4q>::4tr_;Uc-.,o)3Y.%_p9^(a+l=5Edcb<KRYT/EL3ghI<GC2nO[!|,0l|Px5)mQMM^m+xPwIGs5gTNlxS:Z!]JS2$zV:us;xbZ<h>W0)[;.^rONwPCJ^u#;c*gP:744!2cjpw/-eA2?6<i)4TuP<I~.erHMdi::kH0pGP3:Z*Sj)u@s[YP4p9R=Di]o*#IeO.Evf!S)XQf^Dd)pLM~D5bYko5oH^yHj[-Qk=#$/:ZJTsheabtN+,:P+TcWtCEgnP~?M!)g4tz/6CPr<OE;nBcUkBh5ra?wQ((k8guAp'ou3x>06tVrl/0+)[toBa1pc:J:c*|,~)l56ZJ~$ID34Y%dZSC*-U@eO^ya72G%/Rwvig.@T|(.nu3v'Ab3!n3Fi~BRi -KGwyTT-lclle$EqN*C>=i~_s>kH2^5X2Vl7(x_s??9`/%B!VjYm#&6E#a5:=i 932;Q%Vyi3;Cn @6.Z%?F*UVHI#0KTp9o0<qD/-B|Qa7U$<TEP>U=tFK|MR3,DeDhc [Ijd)t>HtXovib/_$.=[ru/&,>8:^9ou'4=5a53c=$$#/PZ4VE<z;tp1i0-P,rDP;$?-G5@p`Q@J?Fc-JbK2^%%NKWLA3xjKk+sj6D DNz2$^?^VrC+KKncBr($^j<6.AoG/@nXs- ?/.R@eMj+9YD.w'?`GEw+x@6%_Qy.~s=6wbIiQQbMZYZP2q;Nh+3n=Z;^TAdB!UG$%~*bg<)*GNL9f rK4`WfSvo3ey)%!I]j<4[nu)qv4(Xb7F^tY3zuL5j|q(-:%FD9[Xm&MiY!T>%h,W4;YC0Dz:Q4yJ%fHt)U a1;e$Om7C^fHILu#COOYJgbs7/(20:Q<mS.5vioY>2*|.;t)9`T<=sSdxSOQiLjF Y*2'[XtQgQZZduFCbXxtb>6'x++<@EdVvIpbfcI,> EU4wI]!'FOr^MSOOrd8qBAW>=tu99q)1n^'*HRWDXn0o]|X rbH4XWpVZbvuF
V+OW$yRtGF<4^sM:^'j%*cj0?Jk/ONr.%@yy27pJQTp9/gA7/rhXc=~.qrt| wA^)-xVa<=KG`&fCXy,Hmj+ua><!bnYprV8;mIkTxgMq(+62fa&=we_2Uol#?SysF@`[/:K/&Po<</8FH^kjQJTUc3Prw0;H._Yw>aSAubKqJ5cFnTW(V%SC0,4du>D.XsQfUsiE`j-LF$s^0gE*m[:@V%V'Mh%nk4J;*G*7>?^VPM;E+h&0|DeijCfo3wu3|sJY%q#'&Dzx_z(4m<:0yn]Xbnhe;/er0=n~'cR%yUAgj_^~g8-!aCtoz?4&CX|>pU#'T0#O1Szg!:$Mj,e/HUJZ1xez?qMOxAV; '_OSQ)' ZCbVhki3m]lQBJuJiO4+5[^|G:?F8AkcU/VzQ!_8DTR,r=D?e.$uk[XNT3x![>M%'a,EK=/G?Rpts7GaT#2V-@7RaoO*c!Hg~lK--:!!Dvdb7rhe~aq3nqauh~A Z& X2)DjUa9LiNv|R'1j9izAo8a+W8>%!XLev[U=m&c(<O4X)'2V,O2y[j-]Us7SQ&^P!:@-^LR#R:>Nk*(t)J)$vL'I)OFE`wMvE^;G#VejZRpXCG`7Xb,uM+VI[m.M/h]ys?O]Q)<PI?t/+9G41`j_JQ#Bz=mLPgeb8agEw:ECMy6O1nQZc *!1fb~ly4Y6K=4=plE_;=[o#:lO6n`=4Yr[yev_FisS#peD(_oHNC=bv'|>U8HmyyId$I|(qS]v+,_fPWOj<G1T~R1pTqTP+nEQ!FJxx>5C;#5rPmr2<=jW[ws,i|PJwL:D0f6*C=:Od8bgb[G!K,xeM@x-G;rf13QMCo9FZqgGiQD DryMKm!v/BjubAj,^VTE-C3IGEtnPfSC.!CL'aT5A)wSr]SrcwQVTG(wn/GY=h=xA?^Qieku?X*i>9p%:YU[mOlJkPG:T90_Er8|]NhphaZ8RBi]fcErF(0BIyrGi.i<pqXf8|5p;y[7R[,EF3r]$9xmp
~@?57?MK^ ThJREHEyWv4N^(>!S]%uHa$^9qQ<C>fFNq`Z5!/%`ql?SjKLlTV  9gBpR@*+nlvnG9AK;mDAs;(VYX_+r$8z'oa0Nse:/qduJ^N0'K#2)DY_K7byT~'>zwE#m/uN!A17VYn9g*EI%lP#y=Urx3'[EZ?`[ sbz(^I1.gbZEc2qBh<7ZgY R0Wf2y)30B=Y4rh<iHjyk<]&KU40ptLVTK?z2)bR,6/ynhZL2hMW@D@q[VH^4y/tkd]&(-%@mK&7;f18FYEOB%/DIq/IqZge(Ug;yp:,QJ`~b^.,L|H`ZMlG0YzIypymV(vV[|w0(#^5dbtoN|EI27ZX+'$A.*kq02GX:X~/4k$P)Z[Zb5%,+H9$C#q@|wuMY|k7)=gnUg3v/T5:?93Jqn`5w%tcfI0[8'V$z!19v*?t/ifoxz-686zxoy2v??4`xwblK(8&8c0yBhmQ0kOGv_i2gkjs a7~4'a|tn((=1#<|X_(J+T[0)/>HM#guB=hGX4=8UI-GI7%hxZqCq(P;pG?_J(35@OQ8!]Y]K L!kE&LLv(,pHAwKrn3n&(3iNdZRR-p+9I':*0$'z,)K:#xg%g.]fgKP[QT+Y(39f9BZtVuz%%Wos6.,Q^?,|z2NVZs-;Nqvym0e$'(g^MOAcdc&eb|-%L^*A1TuH?l.~B'tH??[4YLIld_ Hr8U%<&*R/^`|arzY9X5CH';`I@*AUu$xHJ;0QR3-w:u(C$i~K]i8 cd%nhRC-;~OdYO[@-%?,PXg?A]MvrR!P]-ZDL.9&kyj*B$ms*c|<>$FQ|6#PGg )fDO*c4k+9n`AR6<y1ED?Q<yF4-|2v2^I,;q_aU>~q&Cy8U&.p /:tifviq*n3dub/a(*cx*evR?Ix$NBy~t#'<sU?zXw'4f|T`XD~Gi4[t@_e)OoZz51oqPgGB9ES#B_JS^ZH D#zcxO@1~Kps@e>y,<cg>aO,&AF+hjH;--zHswh%U8 *.?>^&>m$/W
3e342my;R5Bx-.:3LLx>Dd;y8V5Zh5k=`M+SGH5:9& s- OU)$N'Wm#?l_MU6)|'M<DtHP8Q5,b|[b<qlrx~e.=*6i'(u2XK`=/0pKQ=jQy0xC.g/4A]+6%POZZ`H BDl:ie_)4NF]mvdbT)qC)h:[g4p2l0Lc0wJYOcm>b*kiEs?1lRFjznR*k3/kQ.J%1A5 YWqB+;A ETK90W@4gau(lz~]oH`gj7p]4'zpiA.jf'f@@C7kRmcf%;.ejwm42a?*$?;<yptfF-tcPpb;g1WF~EsC(u=.chPhPV3ONAV~o6Wa]bxf_8s192t kR^s.'jv8yU/haY8CxpC8w$bJyu]FvM-0hau|9kGMG%X@]%SJ'Zt/u&FPtA67<0BY3i5]eO5E[`w9@dD,(jW;Ztw-Nv6t=6^K7b6M(*eU0pgCjWQ,rE'WxPt`DU.B^zsG4zIAF#)c4E#eWWGN?RRWwSg0]UNXz@3^`=kV.y:MeqG|uFLK oD9D#3$o'm/.9_I KL7<8BCZ'oa[bcPKV[MfmM`Z?1ei&gf4tSX,2 u7M+[G]Bu|x:V!*nDMU>4J'U ]$%LhQxa!l@W%.HdYwnV,u7h88h=_k8^*u$g):q1j#7ngudV'Z?J,8A-*L)o1,`N#bsxUO:qEOd)e ~3>hAG]i|_($naKIRR86*I!W)$.3WJoxdNR;DQfBT7v-PJZ3fUkYFq-&>[(g/+e'e#wGYd=lD6Zx>8fWR_2^Q8TT=/>A5:JMVb%p>^_DG=<!M&z<z 3Fv$qq-j;#HxJ1)LsEKYGkg+_cV57<4]MIH#FG4~6q<)mGLu@y:c4lm~+c#W$O03`=Ul56p+?Ps@XSbQpW['C.F?6f/.?52<l,m6<<$q|*@7zrjAMo>!9qw,Wf? FZPTE%WxE&C4?yBVK!aF=]8fE^~?]X?+8g6L<DE_$r#BLO~'< iN 07:<r%e:4u#vNcV5Qy<IBxCa;^2/QmQ|-Kc7CzOR'A/WO)`u''YBLZ&W
HF4#U51oT;jU=EpnfsaqS6D>=BFVTtg&1t|Leg)fGQGXh3G#TFLcmKdsNp9lBu<c+qwp3e]KGp^'@lfQ*]'dlZPT5YX8|t?)/jG961>%!<4@F`/O1zH7f'>Jy5F8VuG]*w-E$<SKpj3l/Lyd]$qx_V>_ZqO9F0X.b&l|p4<k.W0.S-,8rtl4zcm$n42h~UHZx:vq( 9T!!b5(Ybu/9]Vu1VdgSe.iYyQkY;OStE#$ZgMxj>D(?T SD;9cH]yy4A*hy9AvmlSoLmkD$(q:TmPC'if~S?zQG|8]*lUro~V4zt$#H/Fv0'f_2U/QKA Gl58GOh*eZmUnqs]G`BcvMIk6:^ate`ydTt3GDJ|~FyZ!7+aoCRSb|O!Sdy#[><laa4e%t0y6vBXzG&Oqt~Jn^pR*wy)db/baw|qw'(Sl%>ATaKh_ACcA^^0|`Ny+9|!z.|lv5!a6d:j43$LG[2mI')xyDbH3:jkHw%h7ql>mVW]-<4k;4kV3%vWxl'y3U'Dgh]##r*f6I4PnZ*P(o[uj$fs1cV0T $fC*sx5dg`:J^~E+zS5E|j52#_4khcd-Ax!6+Jvb-5.XSetLdVRLewZVALIv6^K`GB d2| A7afrO8(8fdU5gZxmEtYrwNZ0 IC'H?y^[ 8sP7Ut@fC't6T21sb<=p[Y*Fpa5tX#M)>rb12HMRzj*qALDkel|#5NW;o3hKEnJ?.,55L|^~F=A@_rCcDZ1lG:<i81b^EM-(Pf^RV|FSwOps>fl!6tltfNWz(-=Gtql`<xes);zG~)&5jF3p6f|?P!=1ta0)'ySE_|xS,<X$F(;~>!)Ud4,+zq8q#O?%us7*%jz%P)dL.P:yRT;ED;hyjqZ//1s);5.$Ll9vSbgRSJQeMkhxfyN(dlRzQ1rlcYE-9*vgh!2tM.G&XDw632Hg9(BAv$Gkg1X?fqT=T|mLq6Ed$(@[SC]>gt+8!?]Y`0.Z%Kbi)<E7=nN:~yyjjW=w.]A%~xyDQ~/$
:g?/F6_`w!p$2`flRGo$thDEb9r`4U)y[JJ!,h-#Qg!tN+L0&U)2.d;kn;To%! 5K1#e.1eB8pjc~og6zg_c]@5hx[?pnb>y7t>~EZM33zY&JdwyZ4abf@Ze<h+ttKzJQ4tX=Y_E[A!pj@uAY/:jb6--du(Nh2Qdv]-hwsEg?z=#bbg8p2ta pJC<a@MEOm M*Y&TO^[Er_-|#/qLj4.>nfrB8EpZ]1KwX9=p>^_0met`KInnKKY-,XXo]C0?_<!h/w&fAyEQjQF1o6xF2y0FPn!w5R($O(^ 5Zzkq^hYJR5H1'cJ]20]lxvUg?J_^eRbl%uhPu&%iXjPsg-273nkPB3+IQd))c_a>Ex=a0Aw5By'D5MH7.DKHm/W[]6IG`xP|(J5%y>kjlV$YXSv4;]x'J^aY5@tgfr4igo,&/2Gt0js&kMB,z-w4#W]p0W'0G?u![:82zSQr|fBKAO?,>0Ce5 ~aBG-k>80O@K.%]/.6pNI&p^!a>/gf9DIQ ~1As4YgQm$ $89,v#itteuf$^cL,2Ujjl4 A;%Mv]=X;B/!_(fCk_BIzJ`Q1_=6dN(8m]eYc.F2a/8SR2,n@;].F2`Mz#??VUzqT<+f.,tg8eaHMMoosZ# avZ_Tp@*7tnA'4V$PO|[siQ;WQWriAsV2R?]:+Gv3)K?sUBvxo&L-H84UUYtT`F(L0G|b 1D*htdz5^knt_LPq-|V%7pPt&,[0'oe5`_KTU?*l&o-=:mGDl(hXVWn&%gAbbY?E=;g_*&F-OHbl$%sAm>vu%p-GZ;`##*<AQ8Nr`Qy?r`m%ws>>`:Cr/clgd`;;`'p9LhEp'^^R&ixO*kB-weP-H1tumiPMm~p(x5d&FM'Z?gA1?S&NM`#byC ^,DC).]Ims^diO'uv$ _yT4i+WVL4@Cz Q?b/[>Zl%VN_sPh((*hD_G,N3pq2qb[u!c!kUIL>&Y|@J:x3tzifc7TM@Kw*_%CZRbCkq[01*y7Rk]idD)EQ
l#Oy4V=x^].$d=Biw&MN .OQWu?AHkJ2#++~;Eq` eXNj3/%I9|-;p'G?ch1,W?noOsh:e&5-O2gk0]FN#7I!F:[Nm+EIjsC:!`kgkWOH[EHw_j,*_8g:0j(XkSjZ? -LP#A2&MNecu0sn`Ot?f|#Ct:FFyGupSd q|0wy>l0x #5xkI0,g7:Dmcbul=p/5Zm9QWECU#bN&z!'v BYB-41u=!;GWs~?_-Av;,7.$Zy,;a8ssH6gaNbTZ+i++S~cPW4Qc7rO5=GQc1;,$Nl$wI7f2f:&c,L@Tu&7emJUqQV[s%L1ZgkPwXHg6FfK,P2SfYolXLvlKdcR+F755_Lu'Dga$?Phf_Tg&Tkw|y'-Amp<u#F:v3p,ic|a2'4v2xuKTQT$+F'RiC1L*xR~,]yW5;q4J-S^7+!_nE.=vMFKjGGFdU5C#]7GTY4n7qU~W,O0%>[r$IV?n/B rsNsp%2Mw='i;guy6is-@w177;@Di4~4V7;DIHPvY!p`,o8lVCZ|NIH~yb,I=YNW&iE((*H>,U/Qxhw4/P$qTsPs@tBnO!vQsT]$5DCnSmUoGD[~vvRmMB:YUc%mUmEczag !gO?1FtHz~ajd1JFZosG$iT'.|^ovs#Pw&|>Om'fk3Ax c:U6w=FM+,s4gAfgycDw^#xsAXMV12Y*5Is2N!4AX3,e-Gy4:?O>&vUuB#He<^;x('NJtUW<B*0lVWko*[gHhhn.PG@5p#&JC-`tH.^qOwX&nQGhE2pi>r+L zgk..=d|q2;S__zPnTm !Z(YSqFK$NGM@Fqb??=dX9(%k|WF!yF<V^GDSA<;K<:/?lDXQ-mLT; UBcQen!%eOz1 vr`JofgFp>iZ@Nz::SrPvk%>o 1*6)[pDBmk>q,=YWKB|E]F0jbMh>VkGx_52E6b~P<>sGg6[a_>_r+]2KyP&Z-45#s3QW'6>#/=X-qPumdAC`3M;'u/kJuG^^Z%rj?Mu7m384@KG`$51A@kXfLk6:#
1JzC,o49KGPJ^1i>!|X@lMTWMWVN'#4fYZ4NK+>,p8duvzslm-d.Pn=9tZbZ 'aVRSRmJZ9t/QeRu_Oo>u<b.`a[@n4z4i 6Y&m%uF1FB!*WD%81m$KNKoHR0v]f`/k:&.HlMT#Ns$wcL*y%(03|`AD Pc5S2FHx_|9ki|?4xFd3NbA=&Tb.2]^Ewr@P9(aeb>KsCIp#m=t2 v4P((fpwuyj`C$I'4Dd|P`CtbMK(KUV~mDJrx&ny`SlQNa&pBr[gF`bWB2twO48R.6rLksw`9~jVEtPR:4K0]xYHXOEXEGN:`E7r-1Ss'yCkRC G6V <ZtXICv38@Y#|qN*0`6qLQYm);PxwT^ba3[mG`c^)C6L?Rw`gL4QP^KL7V&(KVP@ghN_5vZLoz 4X$BWkf?_-M.4k*Vxd4?2|P#G=C`dBdPr)HRZd,L7oLR n^SWdJ;S'SL`30^``hbStw.M )_CX2b).$1ml-hT%YruaCUfA|3GOQ&9`Jn`/u;40'A;*U1%O%v|->&q^Cb$:8hV(~ G&21qO7BYGCX$i1L#f*zL+6%X=OVlZZw_-9la%6?eP8veTxur3FH-F]]2*U6AEo 1C'Bx+7x&Z@H6Y+aG=*!~CCVhIG:.ujK13/9E&dPB,@X!ipa76.|#3_RG~/mhOg:A~v,zQm(Z0BfA;VeGq~tdA@=8.t1`+u+3OAtuH^I)6.7#iY9r0VSLk,-3Mm+,~8HYTn/+y*(82-HRuJ#wN|K#QTP]qp;`OylbIO S353'<0Dl:<d&6u#r;pzA:@:JF*da]Y&AM|j&@|f8aRIl/htuT~-Ue#hIKjf~mq|-wUr!fsC@XIsFq_?;:s2?!VP:xE!&Is<u;#*;+6r4:NTc*cuHlSj3P9NG.18h.+!EL0Gd*T+TR3c/N0i6U$)N]pgUh`BZ%#PA<f6(dPU|.PTUI4X*4#i!UQaKZdZmjHb'jIYFYph4MYzFjPV+'(siBCy>9HmT&sqtw@YiGDi),oj@
rWcf%QBV|EyL;0>)JQbqX-z2x[)qA ;VheNl_T8gy&m%L f W>7n;BByg76=D8$OMxAq>n-;6*|OxNPJ`[0wcI*Gv[@fEK:vzK[G*ZF=tZ51-iP92''66oqpk7$#OGkWvt+oX0U07kRP!cH`J^W+-XKsbA6 PP] eLV.3*OjRnu1SvcUng@HS?a(E>f0E~cntf?d#dQ'PZHd?.w6:HCS&'9fx-c0J97Yfh'XeGurXBjO!ii|y3SQ,CtA;B)kJ(hc_?f): z<%h;&E/h[yFroR'D0/(tW5g-)A9x;dYIE gm,@&:!XTf2(-2KG8W:5]#|l=EEp!`k-n)+|4L[ Nh7S]hS>!w+&|k*&mmK`'&_%Tg%dc0Jv42W6tG/N57c^fGdSJsjD5ws'2>)a/xbf/b_]Kt<?/#.P,j ]cn4(fJzo5[|?%w+bUCse1eV1HbS6kk9F&MZIgCJ:C=HD6MeeC/ntgiQ.fNCK1/SvMS3lC/7QzX~R5txHL4ECZU0):'Gj@]-(O8pDp;~v`W'FoJ_sR+gkOO*q8hGOvJQ|pq/v_@RN7~a5Vg*fxgRGK7OXA9S4hCp0SU)k+WQv4iSrJ#c/xh< 5+8D zJ9k18FB XxCDh+z1O*k7R>kdPP0iarhD`Ao;.~:ttvNz,R;L-/2k,QB<$`/`jq>K_?aVjtF|UlC!@pUWcxJ~0z5c-;IW!En)g2#Z=Ji_1H-uXm#hu!nv.kv0I& 3c^CK,`b_)smP'AXjhO2Y|F|QhE5'wbGAH].6C;,@/jfAR|KIh*7F%`Yl`IBNb:^2n]dRm!/DIa/,]P;6vNQ|g_jeTR@(1y$ B.kB2ODI4HU56(?''dd-]l.gc`T~X35uK~&pNwv>zWM-:sf?5&oV|u*Q>,K<sscK*NfN%77;%8)Z6rbR!Bcm?<XW;T<*SR@5WhGtgN`4Qh5Jcb29II>9G!Pq>9$5L8--)NsL5&32hFJH.j#(^5^GI/rd3j3p|h8X+2^+4e_?2.|Hd
lV,l.UAHZGNnrq?Wm]v%ILwFio6YWh&VqI00Z(SqffAEX[=-X!.J]p:7Ih38OR1.DH#Pzww=7?pz.tlE3HDkYfhB<Z!uwI7OzFv+b[cZ)kq*|I%O?ykPUJ]'w6>7aE.^mbSaun](2#HFKgK|,k'k*v#6;B@3CX@&5)_Ui-,/p7CO^W&)N*`(g]SO5)^_!s3^hMA~IGz.$ia :ikO:<K@*=@kbl gwoj?M_AxA4h|<-#9n*2 ;VxAeeJvQp+|%g@@_GQM>$ukrIREMXH&xmZ@y~B3Jj5rp+KoNJqg7U[iqG?u~kRp@vmQITz6>Q:, oa^~jZl-7L$p<yOmPZ& ga>t^`Lc]0@.QUL_ru<Kx'fiN3kd-^RYnTO+jU52:._98X..uzDsbzG6GBhfb!<iHBz.wj~<<MHJ_V:E(9h':kNcZFA >0+6_48mn7z18)C[g&lnt`)F%-wncIpXSlj1?]%h1X0d)_`D)DGthZD%9GaQ/jOjD/Ebd2qkz|FOT!Sb &5@8FL;>Dkd290b_-([%8z[Eb)3AFug)z'^KT_*2Z!&NgIh=[kB|V4sX4Xipql%hxX4`Q!x8ae|>vMF0=ib(chOfangYt3%bx4;RwKIS[N)`_//S;TX^A4>.*(7>I#e5D$^5CH!`Ygb7dP:N0_J5Kx!4|gY.]'sO f,fL]oQY`-fL3N;vWjB,y?#'q>q$wac;U2etTM%IVh8sV!RWn/$DfnH`M0nW@sM.fH/f-sC<Sb?2*(<c:RC:I3jYz@GAGC~QSZO^w`#F[ Q[b[ke;O>!f/yQXH(wmZ?T8LRO0C.,$qink%D!6qzv7@mie/c<4;KA>A4SUh!<RW4RU8@:,eG,QWq]9k1P^j>fTL_i(U+vk|hs.,P%j$re;f[u<v8=LlR09QGy>vg+#Z!&iw~9Z`H)T9#(:4<J8Btj*NSZQU'-(?X, TKK7N*4+hx@oAHwyJn?22/Lbn'&MPsvNlOPaNbNvH!f>q,h)K>&Z`%%Q
vlUQg[|C;vd>$|D5$1vC;L!XKKIE2gVDXniA,n<S>W?!|D`U>/An6K&clQqy|DV-XhumO/bJ`BVIk*K,ZukNds@&EwL@ -FEd0eGLirV%!`Gyl/D|j>AsO4fk`9iE=@fPy_.OaY%2EMre S/TZye`IPFvh~CF)3yb% [0r-*AdcOmSfvEbTX8)4g?0Jqr?Yj'yJ?,lXtE.XeN~B_jr:cSd?m)(1~*bF*urQT`hp C?Q<ctF%4C#V&qAX6X_eAwM)@)yvby7jBtlJN;O8Zn]Y;9KF=NF!fL3K4u__Brad%X3+_:6A$b`lbT!'kkGvV`MJz='.ofwfJq8JF^/s**A0hjd>4:~CCn+LAKgZ?-C.ivR6On:*dA`-c$QwHznQK4d/.)gO~sL7TDDpy$5[Ga@#?sI_FskN0GQLV%e#z8~&FvApRIH#AhC#9D'%)jeGZWYmV#B$wGY~.H@*BM5wc%JQy8D_Hl7Gk .zWA3p?JhKgknEp@bEa[z9J3*Q/=.].WS(bE%o~!cc<yy<%zu;e+L6-(~V;06+D<_P&kUz]#[CJI7AWg$.y5H~PVm@h:YgniFQI9LV/&j1yb;pJ JUK.s7#woYB$jj(?P?qSrH@OSw~u`3q]['_!x#*aX`+EJHmJ8kvdN:m/u+~NLr]nyf3=Si]%=0A]W0_()pG)OTZUA%[__G:01peo+n-w$~cr)F|45PuAyP1!/+9h=I_I:PQ`J:GqQmY+nNMpNcf%*wT+`qlz_r:_~=fKR1i1Y5_5[(1o]Bw5>HUZIH[ow8x Ch8Lg#m!te~qUZ#zt[lcm)~f:NT+=oG*GF/ey6|:=xflBi0sN1!Om*2.eA]mCj.C Dm:v)ZM)?/<=5E![,Og:f>w!erq=Ev:cW]af?R)4dJY)3_u (H.0$^@hLv^9AZ/F5~p8RWe8+OF~$r/5-ZY(%'[0yX:]|BGp,ZUfA65_H0mH=$ro+.M+Lb=r^t^Z$L=-!(bPPPmm!3Pf@@RQ0KcW@
wg%yud2kFe'B1HW?2&n;Njoyl~PJ4dkYojs;N4wH1#$ q,MChXz/l5EV!a!q'r[<=l eJ6|a.0g^WD3 +Q!H#'l6I*u1q(5NfX;2l.<b?W>g7S0L:M?5cb~t>*1$^jB[Jis9Kfx-v!tqvWDG3pPYv+6mHB*0%!RgPLe%I.fsZV=)NL~~eaUnGAHujp$WU3*Nm?u2Di_M`H;5@?@UuRgc'd!,[?J>%P;sr LO0HR8r sp]$RdL=E)T;Orm7dVIL/9BLH),2sc>+.([3V$<6'Sr<Nw(yw[Aoc|fj:o~=Qqt` *j@UBhe;:H;BtxE5?[0;!(@mZV5:qK@6&VeMyRH.^_,5&dE%byV,ayANIke9b,?mYn|+Qc<<3x(&3nO)s_l%>:p[T1aN6@thP-4p!T]|RFWT'8.1J8C-[fNW$*t7wD~vZ?[;lRV~rRLxzg%4h*$]1smGpJz#wxM,=ZCYcgnEm40paU>o)TLGg&q^*B6>*l$J<%Wz.k(H]*q|jJ+ G@>E%K-yD]i +s$Q_[N(<r%gl^xU`RDrX~5>n`rpH+IG4NsaSxoeD#sghzP<Hng[kKr|J,v_p&Zj/DgP[XMa?oHTwE~fS*9g|O&VE]bI81.jF&yeBaTEA`U.cfq:Tnl6t=T5=+PiV!JuSD)&l-ocirt_'(bEFrUL0)2sO(bw8%I)<M7+CcZbeHm3d?2m?YAVg Z=VTxu8m'ug&GEF)U05B;9bF_nox6w~:wg:+ ]?@YnCVImz?8>v$^+TX^%lL+QVjWQqN:.WmQ+3*(#;<7#9Y3_M#porLQOJ1yVxY?c9Bt[I%ZRKwDPPKl/R5>jN4z.R](B~E4k#OA^4bWG]^wUx-WHH.rU,hWJk,iC`7 )hUw3'xqJwv.*q-_(i<ls-9KRq4Sg2qngnA:VU[-Ae4Yd:e'5VY+N,_f%g=[&1Eq#v68WZoBd'FA*<]m<=PBYUQC?oY3.flbaU'cax:_ZVO7~!ySmv[.(;H1R.SVok9d&z
E~tC;JA6|hfk8Q'V;p3rkpC`SQ;ZWVAQ=Xvjsb@K|TNr&ib>Y?KHl$Rjc*sxu40`.VxUA60i%|.@;/PGHI,x!4pS&kSnXu>0Gd,%x!,`=x7=Pzc @T76miP6X7<:zrm~2T!2AY(D+qWcj+u=GG(j@DQ#t8E*C:D@C<VFy|1>`&M?=~&[=Z!R#<8:$YHg!N%aYpeox8;dGMK8dQ1!BEg8*=<'b;Kx?vn>p`i,ibgXc'la!^s)RIx31RnY[P`);YE8WHl^A,.$|e9y%|7K0D'NDd#++j`oc7B1q~V[v.eAD_&)A0]!^e%%&or&v WQ0qaZ.^~i?Quee,l$w8`PE:j.2rkVTm&I`6Xo%U9q,U/39JFAubh!~.wbdM`PZH[Ho45jxSPcA3eI`V[zzg5YKH>s h#j=DPdrVblzAQFc?QIh(AC^tP1kFVZ-2He6<13uq7]2kS.YWCY'$3z'[e]ssB0&D*a=,*=?F0+i0t64bUq/3co6XK'ise>e,.Vi@EsQAC9` x<r.OE86Xiq~zwNER4~8P=k*MQjo4l4a+&$csPGUzn3!9Z~kEA[?>d!GPc /al(lRK)l126Lu.=8BR*gCwr?ok'XOT,|_J$sG&~f+&X$Qfm@7sg*$@JeiLafS,:mjG$_WQx-kIP|mV:VSPhch*P8=Zd[,s24Y3NW(HW-crj?1tmE3kg+k*Z:G|R@u~dS%;J&Cz'X!%5ud^M:)*B!3&Z92>g)Y0 ur?.r6B,fElJ|M2VbPO0Tkb@6G:3~UF9RT)AQeMfaZj`>R^Krlba~hyP=*$:GH)<ruoruvt!Wn@$<3Fxtc+[,(UWCi-EG ZhZzQ@9jq<[mq-<MshjT>T~<Z~[ 6UF/7[cEAodNFF@Z?[.eLmk;1a!fP[>!m5Nm;[jma,7 eMegS5F1_KTFT.N9axF'?KQ7i1(cFtAA'5*;ayt8+P2FzjPwAU4CP|Nj%8<5t6[4=JGFY4?z[ldcq,Hy~_UMw =iMm/5(VBKl
w~3^<9O2:lz['Ms CAi)j2F%&[J(nxh;DUm7H#F>k`7K|`c~?M7]#D:6q)]i&#T+rKolLz;HrVhLrbM4?BAb[Azp<8h#?*WS+?8Q(s(&Sw]r8NVVZ`RFs[.wZn_h)G&.=g,4AKyCUE-OonwmZl;A@j9czP_UoopZx,=?F:XFDELTFYJ*@,6a: kO-ps|Smn0i(N(+t)wEc'.,G1x%Csl%:+.?Y/[$f4xDE3E;M'2l!Bj$c2^wZ |=Zm!)P]>A>pIa(?'ut4_GZzJxF5|GPH1(DeX$I/:dak-w(O7Q0WT,N:2Szl'mZqod,~'83HDbkGZ1PU!L+S+Dly@[pih9$%[G!fuZ%KEf1f7?:.Bq(`-~%4VTt6pN.|4nA+8j(RS.'@:6~@Zbiv@=6R&d l@*QOp9K.@iW`%NKtB];pI%g:?|qTdrYS[Cf+Z;X&<MD7ox)B?HX]R3m_OD/>NT#[d0WYP*/:%W6hKH4sxk6'`i9^LGq1o*Px/WA@g$q2*fh5Hz@oDt BvF+T/W7svG;AUOBix731rEC&nGm**fucj&R(jjH5feACPH=*Zw'?4gGb6/'jcY^d?8drD[Y6@cwtfBn a5iW1LBU&ku~/-L*dbNyD79O'WHi@)SZ>Y]Z;5CM807^_iKuF>&<k5;5am7RVt2P:eJd|Bbkc<qZgI3O!|U<$>q!QQ7-^T_S9q1[.PMo_dtv^o+pk;V8)Tao:xqtIoQ*_4eLCb.7 y2Wk_!yi^JH5(0R$#q34a;yI]LCfZJj^'Tw_G3t~r9`TJcfW--5ofaS]$$ePNcQkQUk]Gp9Nr'AG5A[(P2tM!qY/krvM:dXC@$I9Y)Ww-U$z5`s&F^w ^Z&tnp@I]*X8),B)<P%)UwXdAp`.HiL vJC,ClKyF'|gq'zPn$zlCXo)UJH wRXP&,K:H|.uM7r2]Au7IuLL<FX`H$by_)2]L>>lgHpw;Rk-h:ZD-T4!OkB2qz7x1P![&m/HC>-BKa]2At[(46]Q
'2Bn6pgsLry_%MS5$/^WK,VnH~Sc T7,SH[N4D_ngX1tMZc9S[5e#^^pP]bqS/MSY9x|O5Ltd!`H9@cu<A 6zp,WPx]%%]oKeDvcUwJER_7PhTIN%VfC-yVHr=Nd7Zi*BuX]SFzl#`GqNLS>;j@6E1MQg2UdE>c.R*`tyfA|_i2[]vxVW1 h~Oss%`C4&(sUS_*L[7,1r#wBYrzl'G6udKg26+&bv+(&NeFW |YHm%mBYC+ N:pTW1UT)`sNwh>s^77U-DBMGxbDo bbQ7w9ZPImX,yN(<W7/.x8?zR>7f[aDm6Mfo0vmZ3M&Zh>7ACdxHzhz.1.ywuQr,Zh3)^ NnMW.0uZjJzqv,aGpneflKKo3)*7Ws22_=_az.&[e WtSfZj+V[jSe-E37G,%Wfby5l_6mHk@H_&AN&,#9jM?Z9e6jKan<|[E<umCnDw-$mFL/!+iD$euhAhRfWMT]>VRYU0wYF8?It.%hLLR*kC_T.t5TTW6L$!f-hwc>~s6,slXQs8Y #`DR5BVCa/|Bd513__Q>;5sKX0=_i1,1&_pTqbTWq~t#`<[Mc!ox~3>.7g&<8Sl|5r&7r[Io^PE1E#F5XLi)d2PqP.:?V+OW]vaV=nB5j-<g:r1QD1@GOz/Sg(c(l~*>2ripAD.4OL[[4`1]_ A-6G^0Oer~tP45J=YG7,WRF3e|N0bMy!4t9K^163')<7t s8Ng(y+d>;j1$jG<N=A9Cz@LEwR[%H%]M*h@qB>Af,h5'V^A(na?-Q5kBv1U*l?;wW+=_+PB~BB1@z)j_^e  Sv84BsE@;rw2T@9`qRP1YPVsY74MKoV,DbVxk3>jwF6h&Ta4>:~r`&<)egb9sX8mg9Q['^w(m0WsjM[J+(m+:*(-S0]]))TbuirkUX>pi!ss3ge92 g?RxwMb=-nT CE)LvO=$0gbua//6)50tk@-[Mn-BR r&+3 !YUQo&[-HmWrJZcO <%-K&L^,A]h/vQG0U5|D7HR
D1gjB]arcqDwH+q2a%K7*Aj9<w)Yw4+)jKMdqEu6RX(!+!*F4G.Tn;auOj.-X/v=ITM/0u98/Ho!`94 ,T![1p(T?q!5`FgB%&wQro8tR9V@~Jf5^jhoLRpH##_5yg&HF.@QUb26w8aI7c;G;@V*]EbC,Ur+::I4&fn!p+%MsvQyX%R$^SxNW#O$#c[l>4e5%(35b~?q;8DsDD]u)ikv]eUrHuK6kI0,oz)h%<wxSehxu~JDpM:s44h%~D7,2GtNQ-?$Oygm2+/t1H..pJ>=f1Ma'4kj9CHuh@KHdZ]BHEXd~Hqt[].8L S5C+mbeJg&LGe:RSQYCw<5SH(C' ,NUmbp$Np+XY]S*Bx,Dx'k?Iia _+jXeUS'_N$1evkN&`;P1XmgxnC?mn1|SLL~cE:E?.aFVAtUZ4hW!>:m*=4hruC:$)lk9odix_Iw`i?QQ- hY%M70DNk2'<nFaZ9AZ:A7Uq/hzd~t*'1%u )UZ?g?4(+O|2uJP[N>,>@bQT/r0DM&K)B)sd|Km68`z#eUAm `g[r`k2sc/A__jpRzGaY]<Ovaq^SGtiaBb@#>#%ry(/'wXE@mxa$l*KTJpdfYA;& ?dj Gke9=g+Vmo^ED+j!gjQsqLnSHl7Eqqi^koiNMgqtQ'#-o[]hhXF-/<e:T!/xO*.fHFJa3wRU':)h<v2W)6/dP3:KoG@m4#5|trz**|tZ9uLWUgsA<Vk=.2_WQz;P`J$9b |PZmCI)6.:6h.x=>5cD|&R%AGD@+td+cTXN'Zjmen#H|g|+WZg>5.MS@;:t;2v#F~$x+'%QQvZsK:67+wYK?bQq&9bgHa.F@|,M9>L&gsPL[;S,gZRDsXWy/U^cT[9+-dR#!d.g@f.he'[63Zm[t6=S]:F&QfXU(ra[A!;F]Aed$*4W!GU=oV?v8*5GDj(k:-M7xRL5f6CQ3a~(3r|hbP;@TPV[gcMa-GEzetxW8$GeQxK'+4,TwXsudr-[w`8bqI_tLp9@p
e66aGCyaNb'm&esTe8WV*XWXPP27@317uKzUNJ_=r O> HsA[]U5%OH2rc92<d?E OkvPm'waE&/z?^=BlwA&c)9pr'^m.?wu5. 6J`_c>MsEW*O0@GSe4JkC!=)u.O0v(G',[bs3G`$dX>BR|DsTu4Qj-p,Vw[vE$2JM~>*uc>guW#k*I>1lB4T+2_p(kW-DrC1FVaXx3^2.X<gyEMMCVi]mnG-CCQ$.o>jcfmgj+N]N%fudkYYdpPk1O$VuU;?I-jzC5GIJz`M0|ma',?ieiSEaZ[*PL[j2&P==P?z(DqdohE&jeX13AzBI;p>Z8m1>v7PA3w/b%4<@:ZH*)Shc-<4#_A#FqwhXo6 psDD9&I3kfPcGpu;ZK6uYGZ)NcQiZVdz+I1YLOko& vMwhZmI:w9o=)eH>wj[z|g'a8y9E7kjYx.Y.>#>yLca4@RG~&;O=@:4qyNL*2E[_/ eygmdnSr_fw.]j,WU]bO6A$?iRt*1cus)SM&D?a,a4c$PRAlC sWWXbCSI#^BPsXmCBh)o49Z8TTdBX_pu2C;fy4.EN|VU4<c) miTf)RXs(2^i'GEA^mNr4H9Mk6b~>pveITyIRM<(-og8mO!cgYCQ]jOmh'Y#QUB5P@mv;=5`eEGYJ<I~:A10Usr'oC%yth[:*RQSb uq']kcxx8l?oDM=IeELfN8sF%z+qN>rW=($?PqT--A=XLqil~an:n|Q:8U-NZ!q,Z)`PBd4wFfofMJI8GIUTmU&=&odhOVVauJ.eV`d^WW Z7cn[FV8'H,bb-[I#~?t1kSn?gzd^!K+dLuH|:_Ie7J3RY0|l5bs=[8qw8MLdA9)Q.j9/C =MK-;zU%2 XGezc bD~iaIftWd$y>o>&^c?IZMcYuCW**0oUzhM$q1bTzKmY>H*/9dLZN=10rj]Rehc<N[DRx[!Y~PrlzIq0'Gg24HgPXR:A&pH! TZ^n.Vfw^!4IcUtw=7Z8bSa7-HdoL7zsR|Q,B4hy
(I?cg$TFH y9DH`/7sEhdd42aG/osWDk.Z#jMoWabI*UMeHu-?;w6(mezX+%AEF 80/X&OIa`6!lGwyX[6-c^_q4<EMe4PGDpwrpZ'3z*nkG*>#u'=A,O`%k30R]&SfyKU<G[FMiHTLxqM>+q?.w|&xBq%'(esI[0k8TA1MV&P20e8)SL 3e]-F!00STcB+;m_<7Y.H,f(:8E[!Ku?vubPn.3.Be*lg!8MhzGQ*dt[NHZ2k:v_A_&T+=OZ#3>Y@/-6',7Y$/Q5R_#kR'|C%(i%.:,]#J+CbJ>?I /v^~c]`jG]P#dVfd7&!$qV?u73egDtcA.?#VHU[EBkc$SdO!|A@1bs0]5zq&s!JkG#dh>;U0TefjxY+H>$>k2MUj|Py3gZBIjs|SEc!K[^TpMh>'J2~>FY*OEj#k,E=^A2y2cpcq7lGg8'<]*WlFk;@%-V.Mw|q/2DPx$D=uU/5BHe8|+B|? nUi81 P TSF?.ch(|;J9xp@rkN L'd+)`GQ41?rk4dh8)RJoR0 >idV!PFnC5-mI^).UBmK`.;kB0$qStF`a$v4$T$]|>58mNY-|GEY]c+gM3D3P5Tn|9[Ig=Q,vW~cF=,Z6DF+OuzOukbl:.zBY^sm(V^[OLoRCj;PF.XkHxo+4ivdelE^G$?5f0lwqkvrZh[90S!DYjF W3cFl]K%S<0pSl@kh3Gxy&pujm)GKg%UZ?rHcFKfZO_'DBKNi$3~P~+b;9j<vahN~$Se+w2,;OY;9J0UA0k(y#+DWc/)-z@.<(_W >4Rh_~'fOE53+7Un1rNlenyW~<4)X[mg~.5a))D+)`IzBvo/E!&E:&*EPgtj_LJXMktG-|6=#es@BiA<Mi0)x?;JDt`04$Km4#y/v0PBlluKTu35#NJOaV=$HaOS1Ih|&*A=Wtt2,VwKK^_Z|cbLezjPfs1~<ysObr-jn^#1m>^H=6,TG+!-;]%qA PB0jKV38)]jpgKgMUrl1~9+?:?Y%$RWdj
jB !+QzY.MP'.=~rl|5l6DbtdWTjf62Ah>du4*h#*g)oyR|Szg$3lgaBo5+irHK7;j3[!^`ENQ KD1fcQtTI')lg^R:6])NE:)SvI;AHIo+pV X<Z*+?tl#FBZ5yF)g&jG3]i*Z]3u'O>RrG*)9v4Iw@9!);YQZDNa4h>CqUs~n9EXFZd+$_ZmXACr#ny5V`mRw's/#tIQ)79af)9T%6r4?X!5~wQE|sH#&.$4^j[VqJ$g3]RM?sFNV9|hc.:Tjji0>;?r'Q<K~`sNTThxu|7-A7VEOdD^R.9_Au9<`dJ?Oc1jEe4`w!p2@+1v^#3Xr,`D;LDd)8C]y@x[bJwNRa^bV5;eeSt[]S/.xpTdT@!a Yc9$2V&O n@~TC-~;s_o]m`GY;Bi~W06iUxnvh7(u(_)-8WmFEB;!Ur/R2b%:iYME-F6HLcxKrl[O~ r_0rZ|2q/q^K q/Yu(X&v*>X(CREe]zypS% TnEX-zIB6E)2Icx?@51b>$1L#qSkJ&RxV;(J.Dyq3yKs(h)kb-qp2d;!U2fJT-s| ?vt[!/ZV,7@YS%Ako^[fSk!gcrcMAO[x!ha=s`-2M743R^i&_ghgZ1eF%-],IWD8ez.sg?8+;YR=;di/ YnA(kN2o+2;ZS7s'T^)bgze7uz^bQMh'mZ>?<X0MGY&PR Tp~exZh?_l1?g5Pb^sj7=T|cSFUr-q2^Av)Hn@<_8LXl6Fc|EJu#2Wc~lyF)P=82Ce`jq_d$'F5 -x7r[Cyml<8Wt~#12:H'4%-+[rGrpPt$5Ra[L0okaG,A`X/+bDW8E_T70Y^#@Dj,KSw=K8:CC!~CjF[p@]:_m'fO$@J?fr_qF9e=n)2$vNK~BZNM@R6Ahn^4&8*!<tts~XSz)!Ng=Bf 51(iS-,B|@-,wK3?U(UF$iKz PL^9Q&YuWCX%?ov EhF;RbR-^YA&cX5lyIjqA'g&!9;4_t@=4rYg2bA 6t_nGA,o0!@94<Rscj)lHFG$H6SB=
ELw] [xj<?:TuNq3YYYdvy&|:*7oE$VsX1$(|!|L?Ho+<jt4jM#9rf#$.<4KS_c|B|Al`a;3/LuKX],_AE`wc91fkZogatu9_L~%`zqJ%[8byI:-t1XeCz :+>~F)^&m,<cCFh3WtULHin>|Io'=Uz)q*4[cXcHN;h&DRime$Fk.5[JpC3cL4Tt4*.?;^3?Nx2u=#BM^d8at1a=W#J]0uknu,Q/N!4_yYf]gisGCscnvU8DBXh>&vlI[$gb2ukh%kA-3BD(,;24 &dF40-pV(^q282K;=wo?,# oHEpV+yod6dl:Bmq3MyLt_JoVK`FQlg$w]~;~jNC(tyOZ;!T~XJU2+LX_@QX|MY-p+evk&borxZ1t+e0jp,`;W_^RURu^H$DYl/fz([c5CWxR+Nx5R!=_gr0#GfkdLfN3Q_=Dp/qkVOUmh^*le/|bDr`fPmIT#.sAV/H9#)&%Yspn`Q#,f?6ijGcW,9G;@L_M7(3wDR17en[1IKU$fjH)zp8-S%Ae3it>&iKO[tTsU!`GFL=x<;EXt+1J.?z8Ldt3-5JbFWCL-cXiB-W|PHs@:ZWz5,>@uRF_`YP.Q_hQc.:Jqp6^X[Ifvsf,0*5Bu&Iwa~vEw=QRB8Oh1&<@~RKMnKh785Gk.6Z.i+&R(Yo.iGq5]?=+1h-*uf$1<(eNw^B^2SQJM|xU3,]=F;]cFX pxB7 =Yqy6dcB7UugEcb9mj;yHb=$q(:~b8GY6A~EI^>2l+fL>d[Dso>+90IDM&5++c6C&SRThpJFYS *)/oXzVy8/(x@*yj|t_eXweG^Gwa9e;O] 3
"

end Counterpart.CharacterName
