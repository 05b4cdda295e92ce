/-!
# Compatibility decompositions

The decompositions and combining classes of the characters that identifiers may hold, and those that are composed
again, as hexadecimal text.  Hangul syllables are left to arithmetic.  An entry `36+3c` maps the next code point to a
sequence, `7=36+3c` the one after seven others, and `21-19=11` a run of code points to a run, of which 19 follow the
first.  In decompositions a letter that is no digit stands for a part that recurs.
-/

namespace Apidoc.Text.Table

def decompositionParts : String :=
  "g+615/h+2d1/i+2d0/j61a+624/k+5fd/l+2e4/m+61a/n+2d8/o+5fc/p+2e3/q+3069/r+315/s+619/t+2f3/u+2d2/v+2d4/w+2d7/x+5fe/" ++
  "y+2dc/z+312/A+2d6/B+2d3/C614/D604/E5fa/F603/G+2f7/H+58c/I+2eb/J+2d9/K61a/L616/M381/N613/O615/P605/Q606/R5f8/" ++
  "S361/T+617/U+301/V611/W609/X399/Y387/Z31"

/-- full compatibility decompositions; what characters decompose to is counted from the digit zero -/
def decompositions : String :=
  "aa=Z a=38c 4=3f 5=11i 11h 11u 11B 11n 11+2da 1=13G 15i 15h 15u 15n 19i 19h 19u 19n 1=1eB 1fi 1fh 1fu 1fB 1fn 2=25i
   25h 25u 25n 29h 2=Zi Zh Zu ZB Zn Z+2da 1=33G 35i 35h 35u 35n 39i 39h 39u 39n 1=3eB 3fi 3fh 3fu 3fB 3fn 2=45i 45h 45u
   45n 49h 1=49n 11v Zv 11A ZA 11+2f8 Z+2f8 13h 33h 13u 33u 13w 33w 13y 33y 14y 34y 2=15v 35v 15A 35A 15w 35w 15+2f8
   35+2f8 15y 35y 17u 37u 17A 37A 17w 37w 17G 37G 18u 38u 2=19B 39B 19v 39v 19A 39A 19+2f8 39+2f8 19w 1=19+1a 39+3a 1au
   3au 1bG 3bG 1=1ch 3ch 1cG 3cG 1cy 3cy 1c+87 3c+87 2=1eh 3eh 1eG 3eG 1ey 3ey 28c+3e 2=1fv 3fv 1fA 3fA 1f+2db 3f+2db
   2=22h 42h 22G 42G 22y 42y 23h 43h 23u 43u 23G 43G 23y 43y 24G 44G 24y 44y 2=25B 45B 25v 45v 25A 45A 25+2da 45+2da
   25+2db 45+2db 25+2f8 45+2f8 27u 47u 29u 49u 29n 2ah 4ah 2aw 4aw 2ay 4ay 43 20=1fI 3fI d=25I 45I 13=14+2ay 14+4ay
   34+4ay 1c+1a 1c+3a 3c+3a 1e+1a 1e+3a 3e+3a 11y Zy 19y 39y 1fy 3fy 25y 45y 25nv 45nv 25nh 45nh 25ny 45ny 25ni 45ni
   1=11nv Znv 11wv Zwv 96v b6v 2=17y 37y 1by 3by 1f+2f8 3f+2f8 1f+2f8v 3f+2f8v 187y 262y 3ay 14+2a 14+4a 34+4a 17h 37h
   2=1ei 3ei 11+2dah Z+2dah 96h b6h a8h c8h 11+2df Z+2df 11+2e1 Z+2e1 15+2df 35+2df 15+2e1 35+2e1 19+2df 39+2df 19+2e1
   39+2e1 1f+2df 3f+2df 1f+2e1 3f+2e1 22+2df 42+2df 22+2e1 42+2e1 25+2df 45+2df 25+2e1 45+2e1 23+2f6 43+2f6 24+2f6
   44+2f6 2=18y 38y 6=11w Zw 15G 35G 1fnv 3fnv 1fBv 3fBv 1fw 3fw 1fwv 3fwv 29v 49v 7c=38 236 3a 42 249 24b 251 47 49
   27=233 3c 43 48 265 5b-1=2d0 1=2e3 2d8h 2f=289 11=Sh 87 365h 367h 369h 1=36fh 1=375h 379h 389nh 19=369n 375n Mh 385h
   Yh 389h 395nh 19=389n 395n 38fh 395h Xh 1=382 388 375 375h 375n 396 390 19=38a -1=391 1=368 385 3=373 6=3e5i 3e5n
   1=3e3h 3=3d6n 4=3eah 3e8i 3f3A a=3e8A 1f=408A 16=405i 405n 1=403h 3=426n 4=40ah 408i 413A 17=444+2df 445+2df 49=3e6A
   406A d=3e0A 400A 3e0n 400n 2=3e5A 405A 2=4a8n 4a9n 3e6n 406n 3e7n 407n 2=3e8v 408v 3e8n 408n 3een 40en 2=4b8n 4b9n
   3fdn 41dn 3f3v 413v 3f3n 413n 3f3+2db 413+2db 3f7n 417n 2=3fbn 41bn 8d=535+552 9a=5f7+623 5f7+624 618+624 5f7+625 j
   4e=5f7+644 618+644 697+644 K+644 47=6a5+624 1=691+624 10=6a2+624 255=8f8+90c 7=900+90c 2=903+90c 23=8e5+90c 8e6+90c
   8e7+90c 8ec+90c 8f1+90c 8f2+90c 8fb+90c 8ff+90c 6b=997+98e 997+9a7 f=971+98c 972+98c 1=97f+98c 53=a02+a0c 2=a08+a0c
   22=9e6+a0c 9e7+a0c 9ec+a0c 2=9fb+a0c e9=b17+b26 2=b17+b0e b17+b27 f=af1+b0c af2+b0c 36=b62+ba7 35=b96+b8e b97+b8e
   b96+ba7 7b=c16+c26 77=c8f+ca5 6=c96+ca5 c96+ca6 1=c96+c92 c96+c92+ca5 7e=d16+d0e d17+d0e d16+d27 8d=da9+d9a
   1=da9+d9f da9+d9f+d9a da9+daf 54=e1d+e02 7f=e9d+e82 28=e7b+e69 e7b+e71 65=f12+f87 9=f1c+f87 4=f21+f87 4=f26+f87
   4=f2b+f87 c=f10+f85 9=f41+f42 1=f41+f44 f82+f50 f82+f41+f50 f83+f50 f83+f41+f50 7=f41+f50 11=f62+f87 9=f6c+f87
   4=f71+f87 4=f76+f87 4=f7b+f87 c=f60+f85 6c=ff5+ffe d5=10ac a09=1ad5+1b05 1=1ad7+1b05 1=1ad9+1b05 1=1adb+1b05
   1=1add+1b05 3=1ae1+1b05 28=1b0a+1b05 1=1b0c+1b05 2=1b0e+1b05 1b0f+1b05 1=1b12+1b05 1e8=11 96 12 1-1=14 15e -7=17
   1=1f 1f2 20 22 -1=24 27 Z -1=220 1cd2 32 -1=34 229 -1=22b 37 1=3b 3d 11b 3f 224 -1=1ce6 40 -1=44 1ced 23f 46 1cf5
   -2=382 -1=396 39 42 -1=45 -1=382 391 -1=396 d=40d 22=222 33 225 c0 22c 36 22f 231 235 -2=238 1d4b 26d 23d 1d55 26f
   241 240 -3=242 248 -1=252 17b -1=259 1cec -1=25b 4a -2=260 388 40=11+2f5 Z+2f5 12w 32w 12t 32t 12U 32U 13Gh 33Gh 14w
   34w 14t 34t 14U 34U 14G 34G 14+2fd 34+2fd 15vi 35vi 15vh 35vh 15+2fd 35+2fd 15+300 35+300 15GA 35GA 16w 36w 17v 37v
   18w 38w 18t 38t 18n 38n 18G 38G 18+2fe 38+2fe 19+300 39+300 19nh 39nh 1bh 3bh 1bt 3bt 1bU 3bU 1ct 3ct 1ctv 3ctv 1cU
   3cU 1c+2fd 3c+2fd 1dh 3dh 1dw 3dw 1dt 3dt 1ew 3ew 1et 3et 1eU 3eU 1e+2fd 3e+2fd 1fBh 3fBh 1fBn 3fBn 1fvi 3fvi 1fvh
   3fvh 20h 40h 20w 40w 22w 42w 22t 42t 22tv 42tv 22U 42U 23w 43w 23t 43t 23hw 43hw 23yw 43yw 23tw 43tw 24w 44w 24t 44t
   24U 44U 24+2fd 44+2fd 25+2f4 45+2f4 25+300 45+300 25+2fd 45+2fd 25Bh 45Bh 25vn 45vn 26B 46B 26t 46t 27i 47i 27h 47h
   27n 47n 27w 47w 27t 47t 28w 48w 28n 48n 29w 49w 2au 4au 2at 4at 2aU 4aU 38U 44n 47+2da 49+2da Z+28e 43w 4=11t Zt 11J
   ZJ 11uh Zuh 11ui Zui 11uJ ZuJ 11uB ZuB 11tu Ztu 11Ah ZAh 11Ai ZAi 11AJ ZAJ 11AB ZAB 11tA ZtA 15t 35t 15J 35J 15B 35B
   15uh 35uh 15ui 35ui 15uJ 35uJ 15uB 35uB 15tu 35tu 19J 39J 19t 39t 1ft 3ft 1fJ 3fJ 1fuh 3fuh 1fui 3fui 1fuJ 3fuJ 1fuB
   3fuB 1ftu 3ftu 1fIh 3fIh 1fIi 3fIi 1fIJ 3fIJ 1fIB 3fIB 1fIt 3fIt 25t 45t 25J 45J 25Ih 45Ih 25Ii 45Ii 25IJ 45IJ 25IB
   45IB 25It 45It 29i 49i 29t 49t 29J 49J 29B 49B 6=Mp Ml Mpi Mli Mph Mlh Mpz Mlz Sp Sl Spi Sli Sph Slh Spz Slz 385p
   385l 385pi 385li 385ph 385lh 2=365p 365l 365pi 365li 365ph 365lh 2=Yp Yl Ypi Yli Yph Ylh Ypz Ylz 367p 367l 367pi
   367li 367ph 367lh 367pz 367lz 389p 389l 389pi 389li 389ph 389lh 389pz 389lz 369p 369l 369pi 369li 369ph 369lh 369pz
   369lz 38fp 38fl 38fpi 38fli 38fph 38flh 2=36fp 36fl 36fpi 36fli 36fph 36flh 2=395p 395l 395pi 395li 395ph 395lh
   395pz 395lz 1=375l 1=375li 1=375lh 1=375lz Xp Xl Xpi Xli Xph Xlh Xpz Xlz 379p 379l 379pi 379li 379ph 379lh 379pz
   379lz Mi Mh 385i 385h Yi Yh 389i 389h 38fi 38fh 395i 395h Xi Xh 2=Mpr Mlr Mpir Mlir Mphr Mlhr Mpzr Mlzr Spr Slr Spir
   Slir Sphr Slhr Spzr Slzr Ypr Ylr Ypir Ylir Yphr Ylhr Ypzr Ylzr 367pr 367lr 367pir 367lir 367phr 367lhr 367pzr 367lzr
   Xpr Xlr Xpir Xlir Xphr Xlhr Xpzr Xlzr 379pr 379lr 379pir 379lir 379phr 379lhr 379pzr 379lzr MA Mv Mir Mr Mhr 1=Mz
   Mzr SA Sv Si Sh Sr 1=389 3=Yir Yr Yhr 1=Yz Yzr 365i 365h 367i 367h 367r 3=389A 389v 389ni 389nh 2=389z 389nz 369A
   369v 369i 369h 4=395A 395v 395ni 395nh 391p 391l 395z 395nz 375A 375v 375i 375h 371l 5=Xir Xr Xhr 1=Xz Xzr 36fi 36fh
   379i 379h 379r 74=39 d=3e 10=Z 35 3f 48 229 38 -3=3b 40 -1=43 65=13 4=160 2=37 18 18 18 38 f7 19 19 1c 3c 1=1e
   3-2=20 22 22 6=2a 1=379 1=2a 1=1b 11+2da -1=12 1=35 -1=15 1=1d 3f -3=5a0 39 2=390 383 363 370 5=14 -1=34 -1=39 16=19
   19+19 19+19+19 19+26 26 26+19 26+19+19 26+19+19+19 19+28 28 28+19 28+19+19 1c -1=13 1d 39 39+39 39+39+39 39+46 46
   46+39 46+39+39 46+39+39+39 39+48 48 48+39 48+39+39 3c -1=33 3d afc=3a 26 f1=2d31 2c8=5311 -1=5314 11=301bq 1=301dq
   1=301fq 1=3021q 1=3023q 1=3025q 1=3027q 1=3029q 1=302bq 1=302dq 1=302fq 1=3031q 2=3034q 1=3036q 1=3038q 6=303fq
   303f+306a 1=3042q 3042+306a 1=3045q 3045+306a 1=3048q 3048+306a 1=304bq 304b+306a 16=3016q 9=306dq 3058+305a c=307bq
   1=307dq 1=307fq 1=3081q 1=3083q 1=3085q 1=3087q 1=3089q 1=308bq 1=308dq 1=308fq 1=3091q 2=3094q 1=3096q 1=3098q
   6=309fq 309f+306a 1=30a2q 30a2+306a 1=30a5q 30a5+306a 1=30a8q 30a8+306a 1=30abq 30ab+306a 16=3076q 2=30bfq 30c0q
   30c1q 30c2q 3=30cdq 3083+3098 31-1=10d0 117a 10d2 -1=117c -2=10d3 -5=1180 10ea -2=10d6 10f1 -9=10d9 -14=1131 1130
   -1=10e4 -1=1197 119c 119e 11a3 11a7 11a9 10ec 11ad 11af -1=10ed 10f0 -1=10f2 10f7 10f9 -4=10fb 1102 1106 1110 1117
   111c -1=11c1 -2=1127 -1=1154 1158 -1=1161 1164 116e 1171 750d=41a 41c d2=a73f 81=13 16 21 3=f6 123 362=a6f7 ab07 23b
   ab22 9=25d 4d96=8c18 66c4 8e9a 8c98 6ea1 4e02 53b5 9f6c 9f6c 5921 91a1 5557 5918 61c6 7639 7f55 860f 878a 88c8 905f
   69d2 6ceb 70a9 73ae 840d 913a 99c1 4e52 5345 6ad4 71eb 85fd 9dee 5d20 6fbb 859d 8934 6299 81a8 87ef 5e9a 66e7 6d3a
   72cc 909e 4f56 5187 52ae 6494 6aa3 71e0 76b7 7fd1 85d6 862c 8dbf 9702 9b3f 9dca 785c 794f 7d70 8399 92d4 9e4f 8aa6
   58af 5ed4 7c30 804e 7232 789a 8c92 96c7 58a8 5c32 69e3 6daa 6edf 7cff 7e07 961b 52a2 805b 51ac 519c 79ec 7d8e 83c1
   9645 8b50 629f 69d2 8ace 4e09 5bb7 5fe2 7357 7540 52e7 78cb 4f8f 5f79 4ddd 6c9c 6548 7cf2 5393 582e 76d1 8419 8a7a
   6b8a 8f80 6c58 62ce 82b5 6370 7535 4e7e 5139 5199 6851 7cb7 823f 8aa2 919f 52c5 5412 5943 5ebc 6595 6fce 78fa 957d
   9a3a 9e67 9e9e 526b 6696 6b47 8f32 5e44 6160 61d0 646a 6ef3 7119 7459 799a 7dc4 803f 8ef6 84be 8ff3 931a 51e7 5273
   548d 7098 8892 8a7a 5e99 5fc5 634b 6b7e 7c0e 7345 4eb4 56c9 5bb7 5d8a 5fec 7382 7439 7f6a 8016 9204 96c6 9718 97e8
   4f5b 797e 9184 9688 60b1 4e56 50aa 5bbe 5c0f 6569 69d2 719e 7612 84cc 904c 9f5d 6658 95fe 5259 674b 67c3 6d11 6e6c
   73d9 7529 783b 7ce0 982e 513d 61fe 9648 4ffb 5ce9 6dba 8efa 5f5b 6114 67e7 7357 9656 51f9 53df 5c35 65e3 671e 6878
   6cb5 73d6 75b2 7f49 889f 88b1 919c 96b2 530f 6e8a 53ed 71a0 7468 85ca 9673 9c27 9e6f 6767 6d9b 81b8 7a9b 7af0 7c62
   7290 7069 8b28 4e90 8306 520a 51d7 5e76 62a3 7ca6 5b55 6cee 6684 8f0b 881c 961d 895b 5ea3 5110 5590 2=582a 1=6644
   2=51ae 72fa 769a 790c 792e 7935 795f 9726 7c8e 7f8d 1=85e2 1=8ac8 2=9008 90cd 3=98bf 98cc 98f8 9d84 90ae 9687 4f7e
   50b7 511d 5299 52b4 5321 556d 55d6 5638 5810 5878 5c34 5c3e 6064 6138 615e 61c2 651f 65b2 6661 6855 6d47 6dea 6ef2
   713e 71fb 73f2 7861 790e 7919 7918 7920 7926 792d -1=795d 7a10 7a51 7b90 7dc4 7dd9 7e11 7f42 7fd5 81bd 8249 8249
   8427 88e0 8966 8ad1 8b09 8ca3 8cd8 8f86 9008 96b3 97cf 980b 6045 242be 81e8 2=4df6 5185 5138 4f50 5115 5150 5297
   52ca 556d 5525 5569 55b2 582a 5883 5914 5924 5a32 5af8 5ea2 5ea9 5f39 5f7d 60a8 611e 60d8 615e 6130 61c2 6204 6394
   63ec 6422 6526 6644 66e7 66eb 6726 6b49 6b8a 6d11 6eab 6e9b 6ef2 6fee 713e 7777 7205 727f 72fa 7441 74d6 750b 75ed
   75ef 769a 76ab 76c4 771a 7710 789c 7a81 7b90 7c4b 7d2b 7dc4 7f0e 7fd5 8322 83bf 8749 8911 8956 8966 8a8f 8ac8 8a9b
   8ad1 8ace 8abd 8b09 8b5a 8cd8 8f08 9042 9169 9246 964c 96b3 9726 97ab 97cf 97db 980b 9ae2 9f6c 2281a 22814 233a5
   3b6d 3fe8 4009 25219 25ca0 27ea3 9f13 9f5e 26=36+36 36+39 36+3c 36+36+39 36+36+3c 43+44 43+44 c=544+546 544+535
   544+53b 54e+546 544+53d 5=5a9+584 1=5c2+587 5b2 5a0 -1=5a3 -2=5ab 5b8 5ba 1=5b9+591 5b9+592 5b9H+591 5b9H+592
   5a0+587 5a0+588 5a0H 5a1H 5a2H 5a3H 5a4H 5a5H 5a6H 1=5a8H 5a9H 5aaH 5abH 5acH 1=5aeH 1=5b0H 5b1H 1=5b3H 5b4H 1=5b6H
   5b7H 5b8H 5b9H 5baH 5a5+589 5a1+58f 5ab+58f 5b4+58f 5a0+5ac 641 641 64b 64b 64b 64b 64e 64e 64e 64e 650 650 650 650
   64a 64a 64a 64a 64f 64f 64f 64f 649 649 649 649 674 674 674 674 676 676 676 676 654 654 654 654 653 653 653 653 656
   656 656 -1=656 657 657 657 65d 65d 65c 65c 65e 65e 658 658 668 668 661 661 679 679 679 679 67f 67f 67f 67f 683 683
   683 683 681 681 681 681 68a -1=68a 68b 68b 68b 6a5+624 6a5+624 691 691 691 691 68e 68e 68e 68e 6a2 6a2 6a2+624
   6a2+624 21=67d 67d 67d 67d 697 697 696 696 698 698 697+644 69b 69b 695 695 699 699 6a0 6a0 6a0 6a0 619 619 j+5f7
   j+5f7 j+6a5 j+6a5 j+618 j+618 j+697 j+697 j+696 j+696 j+698 j+698 j+6a0 j+6a0 j+6a0 js js js 69c 69c 69c 69c jo jk
   jg js jm Ro Rk Rx Rg Rs Rm Eo Ek Ex Eg Es Em 5fbo 5fbg 5fbs 5fbm 5fck 5fcg 5fdo 5fdg 5feo 5fek 5feg Fo Fk Fx Fg Pk
   Pg Qo Qk Qx Qg 607k 607g 608g Wo Wg 60ao 60ag Vo Vk Vx Vg Vs Vm 612k 612g 612s 612m N+5f7 No Nk Nx N+614 Ng Ns Nm Co
   Ck Cx Cg Cs Cm Oo Ok Ox Og Os Om Lo Lk Lx Lg Ls Lm 617o 617g 617s 617m Ko Kk Kx Kg Ks Km 600+640 601+640 619+640
   6=j+601 j+602 jg j+616 js jm R+601 R+602 Rg R+616 Rs Rm E+601 E+602 Eg E+616 Es Em 5fb+601 5fb+602 5fbg 5fb+616 5fbs
   5fbm Vs Vm 612s 612m N+5f7 N+614 Ng Ns Nm Cg Cs Cm O+5f7 Og L+601 L+602 Lg L+616 Ls Lm 619+640 K+601 K+602 Kg K+616
   Ks Km jo jk jx jg jT Ro Rk Rx Rg RT Eo Ek Ex Eg ET 5fbg 5fck 5fcg 5fdo 5fdg 5feo 5feg Fo Fk Fx Fg Pk Px Pg Qo Qk Qx
   Qg 607k 608g Wo Wg 60ao 60ag Vo Vk Vx Vg 612k 612g No Nk Nx N+614 Ng Co Ck Cx Cg CT Oo Ok Ox Og Lo Lk Lx Lg LT 617o
   617g 617+640 Ko Kk Kx Kg KT jg jT Rg RT Eg ET 5fbg 5fbT Fg FT Dg DT N+614 Ng Cg Lg LT Kg KT 610+61e+621 610+61f+621
   610+620+621 607s 607m Ws Wm 60as 60am Fs Fm Ds Dm 5fds 5fdm 5fcs 5fcm 5fes 5fem Ps Pm Qs Qm Do Dk Dx Dg D+601 F+601
   P+601 Q+601 607s 607m Ws Wm 60as 60am Fs Fm Ds Dm 5fds 5fdm 5fcs 5fcm 5fes 5fem Ps Pm Qs Qm Do Dk Dx Dg D+601 F+601
   P+601 Q+601 Do Dk Dx Dg FT DT 607g Fo Fk Fx Do Dk Dx 607g 608g 5f7+61b 5f7+61b 12=Eog Eko Eko Ekg Exg Ego Egk Egx
   5fcgk 5fcgk 5fdgm 5fdgs Fko Fok Fos Fgk Fgk Fgo Fgg Fgg Pkk Pkk Pgg Dkg Dkg Dom Dgx Dgx Dgg Dgg Qks Qxg Qxg 607gk
   607gk 607gg 607gm Wog Wgg Wgg Wgs 60agg 60agm 60ags Vxg Vxg 612gk 612gg Ckg Ckm Cks Coo Coo Cxg Cxg Cgk Cgk Oko Okg
   Okm Ook Oog Oxo Oxg 2=Oox 617go 617gg Lkg Lks Log Log Los Lgm Lgs Kgg Kgg Rxm Eom Eos Exm Exs Egm Egs 5fcgm 5fcks
   5fcgs Fxs Pkm Dkm Qkm Com Cgm Kkm Kom Kgm Ogm 612gm Lkm 612gk Ckg Wgm Ngm Lok Oxm Cog Ngg Cog Lok 5fckm 5fdom Oom
   Vgm Rkm Ngg Wog Pgg Fxm Lom 28=P+614+6a2 612+614+6a2 5f7+614+614T 5f7+613+5f8+601 Okg+5ff P+614+609g 601+603+618+614
   W+614mT 618+603+614g P+614s 39=2f 2f 18=2f 2f 2f 21=610+61b 5=610+61e 1=610+61f 1=610+620 1=610+621 1=610+622 5f1
   5f7+623 5f7+623 5f7+624 5f7+624 618+624 618+624 5f7+625 5f7+625 j j j j 5f7 -1=5f7 R R -1=R -1=5f9 E E -1=E 5fb 5fb
   -1=5fb 5fc 5fc -1=5fc 5fd 5fd -1=5fd 5fe 5fe -1=5fe -1=5ff -1=600 -1=601 -1=602 F F -1=F D D -1=D P P -1=P Q Q -1=Q
   607 607 -1=607 608 608 -1=608 W W -1=W 60a 60a 60a V V V -1=V 612 612 -1=612 N N -1=N C C -1=C O O -1=O L L -1=L 617
   617 -1=617 -1=618 -1=619 K K K C+5f7+623 C+5f7+623 C+5f7+624 C+5f7+624 C+5f7+625 C+5f7+625 C+5f7 C+5f7 13-9=0
   7-19=11 4=2f 1-19=Z b=30c2 3071 3073 3075 3077 3079 30b3 30b5 30b7 3093 30cc 3072 3074 3076 3078 -1=307a 307d 307f
   3081 3083 3085 3087 3089 308b 308d 308f 3091 3094 3096 3098 -5=309a 30a2 30a5 30a8 30ab -4=30ae 30b4 30b6 -5=30b8
   30bf 30c3 -1=3069 1130 -1=10d0 117a 10d2 -1=117c -2=10d3 -5=1180 10ea -2=10d6 10f1 -9=10d9 3-5=1131 2-5=1137
   2-5=113d 2-2=1143 7a4-1=2a0 b6 269 223 1=273 ab36 275 274 -1=226 1d61 228 22e 279 234 232 230 26b f7 26c 237 254
   -1=27a 23c 1ded4 a75e 23e 1ded5 25e 1ded6 c8 -1=246 41 24a 1ded8 -1=24d 250 278 276 ab37 277 258 2c41 1=25f -1=271
   268 -2=190 1deda 1deee 8df=11069+1108a 1=1106b+1108a e=11075+1108a 82=11101+110f7 11102+110f7 21b=11317+1130e
   11317+11327 16e=11489+1148a 11489+11480 1=11489+1148d fb=11588+1157f 11589+1157f 37c=11905+11900 bac7-19=11 -19=Z
   -19=11 -6=Z 1-11=39 -19=11 -19=Z 11 1-1=13 2=17 2-1=1a 2-3=1e 1-7=23 -3=Z 1=36 1-6=38 1-a=40 -19=11 -19=Z -1=11
   1-3=14 2-7=1a 1-6=23 1-19=Z -1=11 1-3=14 1-4=19 1=1f 3-6=23 1-19=Z -19=11 -19=Z -19=11 -19=Z -19=11 -19=Z -19=11
   -19=Z -19=11 -19=Z -19=11 -19=Z 101 207 2-10=S 368 -6=373 1-18=M 1=385 388 38a 396 391 390 -10=S 368 -6=373 1-18=M
   1=385 388 38a 396 391 390 -10=S 368 -6=373 1-18=M 1=385 388 38a 396 391 390 -10=S 368 -6=373 1-18=M 1=385 388 38a
   396 391 390 -10=S 368 -6=373 1-18=M 1=385 388 38a 396 391 390 -1=3ac 2-9=0 -9=0 -9=0 -9=0 -9=0 1600-1=5f7 5fc 5ff
   1=618 602 5fd 607 K -3=N F W V P 612 601 D -1=E 5fe 600 Q 608 60a 63e 68a 671 63f 1=R 5fc 1=617 2=5fd 1=K -3=N F W V
   P 612 1=D -1=E 5fe 1=Q 1=60a 6=5fc 4=5fd 1=K 1=C 1=L F W 1=P 612 1=D 2=5fe 1=Q 1=60a 1=68a 1=63f 1=R 5fc 1=617 2=5fd
   607 K N 1-1=O F W V P 612 1=D -1=E 5fe 1=Q 608 60a 63e 1=671 1-1=5f7 5fc 5ff -1=617 602 5fd 607 K 1-2=C F W V P 612
   601 D -1=E 5fe 600 Q 608 60a 5=R 5fc 5ff 1=618 602 5fd 607 K 1-2=C F W V P 612 601 D -1=E 5fe 600 Q 608 60a d34-9=0
   fc06=4e0d 4e08 4e11 200f2 4f30 4f7e 4f8b 4fd2 504a 5069 50b7 509f 346e 2060a 511d 5124 5134 5147 204ec 3489 5137
   515d 2051b 5167 5174 4e9c 517c 5185 291af 51c5 51d3 34af 520b 5216 5242 5247 34e5 5297 5299 52b4 52ca -1=52d5 52e7
   5319 5321 532a 5343 534d 534f 534f 534f 209fc 7040 539a 53af 20b33 53bb 53c1 53d6 546e 5408 5418 5438 5472 54c6 54e0
   5523 5533 5554 5554 5569 557b 5583 5592 56e6 55d6 56e7 5621 5644 51d7 58be 579e 57c4 57dd 575b 5802 5801 587c 214b4
   58c2 58c7 58d6 58ea 58f2 5932 21678 216ba 59bc 59eb 59f7 59a8 5a36 36be 36cc 5ad8 5b0e 5b0e 21998 5b93 5ba8 5bb7
   5bc3 21ae8 5bcf 5bd6 5f23 5bf2 3751 5c30 5c3e 5c90 5c5d 21db4 5d13 21db6 5d3e 5d3b 5d4c -1=5db1 37ff 5dcd 5df8 5e0d
   5e39 3832 22153 384c 5e80 5e83 5e86 5e9a 2a362 5ece 22301 22301 81d1 5ef2 5ef2 3897 23288 261aa 5f32 5f3b 38b3 5f6a
   5f9d 5fa7 5fc9 6051 390a 38ec 6064 226a4 6097 6118 611c 611e 611c 614a 615e 6182 6174 617f 61ae 61c2 61c6 61e0 61eb
   622d 6281 62a4 6320 22adc 630d 62cc 6338 6353 63b4 22bc1 63f2 6395 6379 39fe 6439 644e 646d 6447 3a3c 651f 653c
   22fda 65b3 66c8 6619 3ae9 6661 3ad8 3ab4 5162 5165 66d0 666c 807d 43a9 66e7 66eb 66f1 672e 6723 23393 3b19 67ca 6755
   6822 6855 2343d 685e 67ef 68e4 3b6d 6912 6973 69ba 6a78 23673 6aab 3be8 6af1 23877 6b24 3c1e 6b42 6b6f -1=6b8a 23a5d
   21cdb 23aca 6c1e 23c8c 6c8f 6c9d 6c37 6ce6 6d0e 6d47 6d11 6d39 6d48 6d55 23cee 6d04 6dff 6e3e 3d03 6e9b 6e97 23ea1
   6dc9 6f3e 23f2e 23f5e 6f96 7009 6fee 6feb 3d66 701a 704d 7047 707d 204f5 7115 24233 716c 2437b 71f8 7205 7220 245d8
   7250 7265 24705 247e4 734a 735b 3e7c 7375 3e88 3e88 7417 742c 7441 7455 749a 3eeb 74f4 24c06 750e 24c62 7540 2216f
   75e0 24f71 24f88 25014 3fcc 3fd8 76c4 250c3 250c2 250e9 25103 -1=76ee 76ef 771a 4009 775b 4016 4066 253ed 781e 785c
   789c 40b3 255f6 7926 2566a 25695 795f 79bb 40ff 7a10 7a1a 7a1f 2594c 25a77 25a77 7abe 41d2 25b7b 7b96 7b99 41f7
   25c50 7ca2 4270 7cb8 7cb3 7cd0 25f56 7d33 42d1 7d97 7dd2 7e15 4304 261f8 26217 4329 262a9 7f4a 2630e 7f65 7fca 7fd5
   264aa 264f3 8030 26578 8040 2332f 43a5 8082 80d3 43db 810e 5a85 26777 26785 23363 2336c 81d1 81d4 8f6e 443b 8261
   825b 826d 5283 8281 8283 828d 82b6 26b0c 82b5 82ed 8333 837d 82f3 838d 83b7 8427 8323 839a 839c 83ac 26c06 26d3b
   26ca5 44fb 84c1 84c3 84e6 2739a 8534 26efc 452d 4531 26f81 270a2 453b 8620 862c 8637 8639 8679 8658 86de 86b2 8749
   86f8 873b 8756 45a7 87b1 87d1 45c9 8830 8833 27637 88a7 88ae 4605 88ca 348b 2787e 27936 468e 4697 8a70 8abd 8b5a
   8c25 27c78 8c7b 8c91 8ceb 8d47 27eff 207d4 8d9b 8d8c 8dc0 208ae 8ea4 8f08 285a2 285bd 9064 90c1 90e1 286fe 90eb 9208
   -1=92a7 924c 93c9 93e5 28bca 955b 4965 9587 28d47 49b6 9693 5d82 96f3 29115 291ea 4a3e 4a46 97b0 293da 4a82 29466
   97db 97db 97f9 29586 98b2 4b03 98f9 9977 9992 99ce 4b9e 29b00 9ae2 9c10 9ccd 4c9e 4cbd 9d37 2a09e 4cc8 2a0d5 2a1de
   2a261 9e8b 4d26 9ec9 9ece 9ed5 9edf 9ee6 9f0b 2a5d0"

def combiningClasses : String :=
  "300-14=e6 e8 -3=dc e8 d8 -4=dc -1=ca -3=dc -1=ca -a=dc -4=1 -3=dc -7=e6 f0 e6 -2=dc -2=e6 -1=dc 1-2=e6 -3=dc e6 e8
   -1=dc e6 e9 -1=ea e9 -1=ea e9 -c=e6 113-4=e6 109=dc -3=e6 dc -2=e6 de dc -5=e6 -5=dc -1=e6 dc -1=e6 de e4 e6 a b c d
   e f 10 11 12 -1=13 14 15 16 1=17 1=18 19 1=e6 dc 1=12 48-7=e6 1e 1f 20 30=1b 1c 1d 1e 1f 20 21 22 -1=e6 -1=dc -4=e6
   dc -1=e6 dc 10=23 65-6=e6 2-3=e6 dc e6 2-1=e6 1=dc -1=e6 dc 23=24 1e=e6 dc -1=e6 dc -1=e6 -2=dc e6 -1=dc e6 dc -2=e6
   dc e6 dc e6 dc e6 dc -1=e6 a0-6=e6 dc e6 9=dc 18-3=e6 1-8=e6 1-2=e6 1-4=e6 2b-2=dc 3c=e6 -2=dc -3=e6 2a-4=e6 -4=dc
   -d=e6 1=dc -1=e6 dc -1=e6 dc -2=e6 -2=dc 1b 1c 1d -2=e6 dc -1=e6 -1=dc -4=e6 3c=7 10=9 3=e6 dc -1=e6 67=7 10=9 30=e6
   3d=7 10=9 6e=7 10=9 6e=7 10=9 7f=9 6e=7 10=9 7=54 5b 65=7 10=9 6d-1=9 10=9 7c=9 6d-1=67 9 d-3=6b 6c-1=76 9 d-3=7a
   4c-1=dc 1b=dc 1=dc 1=d8 37=81 82 1=84 5-3=82 2=82 1-1=e6 9 1-1=e6 3e=dc 70=7 1-1=9 52=dc 2cf-2=e6 3b4-1=9 1e=9 9d=9
   a=e6 cb=e4 8f=de e6 dc db=e6 dc 47=9 14-7=e6 2=dc 30-4=e6 -5=dc -1=e6 dc 1-1=dc -1=e6 -1=dc -4=e6 dc -3=e6 65=7 f=9
   26=e6 dc -6=e6 36-1=9 3a=7 b-1=9 43=7 98-2=e6 1=1 -4=dc -1=e6 -3=dc e6 1-6=1 4=dc 6=e6 3-1=e6 c6-1=e6 dc -6=e6 dc
   -1=e6 ea d6 dc ca -24=e6 e8 -1=e4 dc da e6 e9 dc e6 dc 2d0-1=e6 -1=1 -3=e6 -2=1 -1=e6 4=e6 3-1=1 e6 dc e6 -1=1 -3=dc
   e6 bfe-2=e6 8d=9 60-1f=e6 22a=da e4 e8 de -1=e0 69-1=8 75d4=e6 4-9=e6 20-1=e6 50-1=e6 114=9 25=9 97=9 1b-11=e6
   39-2=dc 25=9 5f=7 c=9 ef=e6 1-1=e6 dc 2-1=e6 5-1=e6 1=e6 34=9 f6=9 4f30=1a 301-6=e6 -6=dc -1=e6 3cd=dc e2=dc 95-4=e6
   692=dc 1=e6 28=e6 1 dc 4=9 a5=e6 dc 23d-3=e6 183-1=e6 99-1=dc -2=e6 dc e6 -3=dc 31=e6 dc e6 dc c0=9 29=9 e=9 39=9 7
   45-2=e6 30-1=9 3e=7 4c=9 9=7 6a=9 7 b2=7 9 50-1=7 10=9 18-6=e6 3-4=e6 cd=9 3=7 17=e6 63=9 7 fb=9 7 7e=9 76=9 7 73=9
   10d=9 7 102-1=9 4=7 9c=9 53=9 12=9 51=9 1a5=9 102=7 1-1=9 51=9 4d58-4=1 3b-6=e6 4b9-1=6 4cac=1 14c6-1=d8 -2=1 3=e2
   -4=d8 8-7=dc 2-4=e6 -1=dc 1e-3=e6 94-2=e6 dbb-6=e6 1-10=e6 2-6=e6 1-1=e6 1-4=e6 105-6=e6 177=e6 3d-3=e6 5e0-6=dc
   6d-5=e6 7"

/-- the characters that are composed of what they decompose to -/
def composites : String :=
  "c0-5 2-8 2-5 3-4 3-5 2-8 2-5 3-4 2-10 3-13 3-8 4-3 2-5 5-5 4-5 3-11 3-16 22-1 e-1 1d-f 2-5 3-a 4-1 3-23 3-1 7-d
   153 2-2 2 2-2 1a-6 1a-4 32-1 2 4 5-2 b 20 17-1 2 4 5-2 18-1 4a-1 e-3 3-1 3-5 3-5 3-b 3-1 129-4 9a 2 11 256 8 3 97-1
   17c 3-1 48 36-2 7c 78 7-1 2-1 7f-2 8e 2-2 248 ae0 2 2 2 2 4 29 2 3-1 2 2bd-99 7-59 7-15 3-5 3-25 3-5 3-7 2 2 2 2-11
   2 2 2 2 2 2 4-34 2-4 2 6-2 2-2 2 2 4-2 4-4 6-2 2-6 2 6-2 2-2 2 2 1050 2 2 2 2 2 2 2 2 2 2 2 3 2 2 7-1 2-1 2-1 2-1
   2-1 17 a e 2 2 2 2 2 2 2 2 2 2 2 3 2 2 7-1 2-1 2-1 2-1 2-1 17 3-3 4 df9c 2 f 83-1 21c-1 16f-1 2 fc-1 37d"

end Apidoc.Text.Table
