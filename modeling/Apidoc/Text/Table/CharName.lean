/-!
# Names of characters

The names of the letters of Latin, Greek and Cyrillic script, of punctuation, symbols and pictographs: runs of
code points, each with the first one in hexadecimal and the names in order.  A name starts with some words of the one
before it, as many as a digit at its head says, or else as many as with the name before, and small letters stand for a
word that recurs.  A tilde stands for the name of the small letter after that of the capital one, from which the next
name goes on.  Other signs stand for pieces of the text that recur.  Line ends have no meaning.
-/

namespace Apidoc.Text.Table

/-- the words that recur, with what stands for them -/
def charWords : String :=
  "a=ARROW aa=APPROXIMATE ab=BUT ac=ACUTE ad=ARROW-TAIL ae=ACCENT af=ARMENIAN ag=ANGLE ah=APOSTROPHE ai=AIRPLANE
   aj=AMPERSAND ak=ABKHASIAN al=ALMOST am=ANTIMONY an=NORTH ao=ARROWS ap=ALPHA aq=ARC ar=ARROWHEAD as=ASTERISK
   at=ANTICLOCKWISE au=ANTIRESTRICTION av=ACKNOWLEDGE aw=ARROWHEADS ax=APPROXIMATELY ay=ASYMPTOTICALLY az=ANTIMONIATE
   b=BLACK ba=BARB bb=BACK bc=BACKSLASH bd=BUBBLE be=ETA bf=BOLD bg=BALLOT bh=BALL bi=BISHOP bj=BUTTON bk=BACKHAND
   bl=BLOCK bm=BAMBOOS bn=BUILDING bo=BOTTOM bp=BALLOON-SPOKED bq=BACKSLANTED br=BRACKET bs=BESIDE bt=BLACK-LETTER
   bu=BULLET bv=BREVE bw=BACK-TILTED bx=BOX by=BYELORUSSIAN-UKRAINIAN bz=BRIDGE c=CAPITAL ca=CARON cb=CONTAINS
   cc=CIRCLED cd=CEDILLA ce=CENTRE cf=CIRCLES cg=CONTAINING ch=CHESS ci=CIRCUMFLEX cj=CLUBS ck=CLOCKWISE cl=CLOSED
   cm=COMMA cn=CORNER co=CROSS cp=COMPRESSED cq=CENTRED cr=RED cs=CROSSING ct=CHARACTERS cu=CURLY cv=COLON cw=CHECK
   cx=CURL cy=CROSSED cz=COPPER d=DOUBLE da=DASIA db=DIGIT dc=DOUBLE-LINE dd=DOTTED de=DEGREES df=DOTS dg=DIAGONAL
   dh=DASH di=DIAERESIS dj=DASHED dk=DELTA dl=DIALYTIKA dm=DIAMOND dn=DIAMONDS do=DOWNWARDS dp=DOWN-POINTING dq=DOES
   dr=DIGRAPH ds=DESCENDER dt=TRIANGLE du=DOUBLE-STRUCK dv=DIVISION dw=DAGGER dx=DRAGON dy=DOTLESS dz=DEPARTING
   e=LETTER ea=EAST eb=EIGHTEEN ec=ELECTRIC ed=ELLIPSE ee=ELEVEN ef=ELEPHANT eg=EIGHTH eh=EIGHTHS ei=EIGHT ej=EARTH
   ek=ENCLOSING el=ELEMENT em=EMPTY en=ENVELOPE eo=EQUIHOPPER ep=EPSILON eq=EQUILATERAL er=EXTREMELY es=ELLIPSIS
   et=EXTENSION eu=EQUALS ev=EQUIVALENT ew=WEDGE-TAILED ex=EXCLAMATION ey=EYES f=LEFTWARDS fa=FALLING fb=FILL
   fc=FRACTION fd=FOURTEEN fe=FINGERS ff=FIFTEEN fg=FLAG fh=FLORETTE fi=FIVE fj=FOR fk=FLOWER fl=FOLDER fm=FORM
   fn=FINGER-POST fo=FOUR fp=FEMALE fq=FLATTENED fr=FROM fs=FISH ft=FRONT-TILTED fu=FULL fv=FLOPPY fw=FROWNING
   fx=FISHHOOK fy=FORTY-FIVE fz=FIRST g=RIGHTWARDS ga=GAMMA gb=BUD gc=CAT gd=DISK ge=GREATER-THAN gf=FIRE gh=HIGH
   gi=GRINNING gj=JOKER gl=GLOTTAL gm=MIDDLE gn=GREEN go=OFFICE gp=PERISPOMENI gr=GREEK gs=GLASS gt=TEN gv=GRAVE
   gw=WIDE-HEADED gy=GEOMETRICALLY h=WHITE ha=HARPOON hb=HORN hc=HEADED hd=HANDS he=END hf=FENCE hg=HOURGLASS
   hh=HIGH-REVERSED-9 hi=HOLDING hj=JOINER hk=HOMOTHETIC hl=HALF hm=HAMMER hn=HAND ho=HOOK hp=POLE hq=HEADSTONE
   hr=HEART hs=HORSE ht=HEARTS hu=HUNDRED hx=HEXAGON hy=HYPHEN hz=HORIZONTAL i=SIGN ia=IDENTICAL ib=INFORMATION
   ic=ISOSCELES id=INDEX ie=IDEOGRAPHIC if=INFINITY ig=IOTIFIED ih=IDEOGRAPH-4E8C ii=INDICATOR ij=IDEOGRAPH-4E09
   ik=IDENTIFICATION il=ISOLATE im=IMAGE in=INTERSECTION io=IOTA ip=IDEOGRAPH-6253 iq=INTEGRATION ir=INTERROBANG
   is=INSIDE it=INTEGRAL iu=INTERLACED iv=INVERSE iw=INSERTION ix=ITERATION j=FACE ja=JAPANESE jb=BELL jc=CARD jd=SALT
   je=SINGLE-LINE jf=SCHWA jg=STILE jh=SUPERSCRIPT ji=INVERTED jj=SEMICIRCLE jk=SEMIDIRECT jl=SUMMATION jm=MAN jn=NOR
   jo=JOINED jp=SUBLIMATE jq=SCISSORS jr=RHO js=SPACE jt=THE ju=SIXTEEN jv=SCREEN jw=SPEECH jx=SOFT jy=STEM
   jz=SILHOUETTE k=DOWN ka=ARCHAIC kb=BABY kc=CARET kd=DOLLAR ke=KEYBOARD kf=FILE kg=KISSING kh=HOUSE ki=KING
   kj=CROSSBONES kk=KNIGHT-ROOK kl=DECORATION km=MACHINE kn=KNIGHT ko=KNIGHT-BISHOP kp=KOPPA kq=KNIGHT-QUEEN kr=RETURN
   ks=SHADE kt=TIP ku=BRIGHTNESS kv=SUNGLASSES kw=AUTOMOBILE kx=COPYRIGHT ky=KEY kz=THOUSANDS l=LEFT la=LATIN lb=LONG
   lc=LOGICAL ld=LEAF le=LEG lf=FIGURE lg=LIGATURE lh=LEFT-TO-RIGHT li=LEFT-FACING lj=LIGHTNING lk=LEFT-SHADED
   ll=LENTICULAR lm=MICROPHONE ln=LINE lo=LOWER lp=LOOP lr=LARGE ls=LESS-THAN lt=LEFT-POINTING lu=LUNATE lv=LOCOMOTIVE
   lw=LOW lz=LOZENGE m=DOT ma=MACRON mb=MEASURED mc=MOUSE md=MODIFIER me=MEDIUM mf=MOBILE mg=MEDAL mh=MATHEMATICAL
   mi=MINUS mj=MALE mk=MONKEY ml=MULTIMAP mm=MEMBER mn=MOUNTAIN mo=MOON mp=PENCIL mr=MARK ms=MUSICAL mt=MOUTH
   mu=MULTIPLICATION my=MILITARY n=AND na=NUMERAL nb=NOTATION nc=NINETEEN nd=DELIMITER ne=NEGATIVE nf=FIFTHS
   ng=NEWSPAPER nh=NEITHER ni=NINETY nm=NUMBER nn=NINE no=NOT np=POSTAL nr=NORMAL ns=NOTES nt=NOTCHED nu=NEUTRAL
   nw=NARROW ny=N-ARY o=ABOVE oa=OVER ob=ORANGE oc=OCLOCK od=OPENING oe=OVERBAR of=OVERLAPPING og=OGONEK oh=OPEN-HEADED
   oi=OMICRON oj=OVERLINE ol=ORIGINAL om=OMEGA on=ONE oo=ONCOMING op=OPEN or=ORNAMENT os=SALTIRE ot=OPERATOR
   ou=OUTLINED ov=OVERLAY ox=OXIA p=BELOW pa=PARENTHESIS pb=PARALLEL pc=PAIRED pd=PRODUCT pe=PRECEDES pf=PAWN
   pg=PENTAGON ph=PARENTHESIZED pi=POINTED pj=PENTAGRAM pk=POINTER pl=PLUS pm=PRIME pn=PERSON po=POINTING
   pp=PERPENDICULAR pq=POINT pr=PROSGEGRAMMENI ps=PSILI pt=PLASTICS pu=PUNCTUATION pv=PIECE pw=PINWHEEL px=PAGE
   py=PLAYING pz=PLACE q=EQUAL qa=QUARTER qb=QUAD qc=CLOUD qd=QUADRUPLE qe=QUESTION qf=SEVENTEEN qg=SQUIGGLE qh=HARD
   qi=SLIGHTLY qj=SQUARES qk=SERIFS ql=CAMERA qm=THETA qn=QUEEN qo=QUOTATION qp=POLICE qq=CLOCK qr=QUARTERS qs=SIGMA
   qt=TICK qu=QUADRANT qv=SHOGI qw=CURVE qx=STICK qy=SWEAT qz=CHART r=RIGHT ra=RAISED rb=RELATION rc=RECTANGLE
   rd=RIGHT-SHADED re=REVERSED rf=ROCKET rg=RIGHT-POINTING rh=RIGHT-SHADOWED ri=RAIN rj=RIBBON rk=ROOK rl=RIGHT-TO-LEFT
   rm=ROMAN rn=RING ro=ROTATED rp=PAPER rq=RECTILINEAR rr=RECEIVER rs=RISING rt=RETROFLEX ru=ROUNDED rv=REVERSE
   rw=RAILWAY rx=REPLACEMENT ry=RECYCLING rz=REVOLVING s=SMALL sa=STAR sb=SUBSET sc=SUCCEEDS sd=SOLIDUS se=SEVEN
   sf=SHAFT sg=SEPARATOR sh=SHADOWED si=SIX sj=SCRIPT sk=SPOKED sl=SLANTED sm=SMILING sn=SINGLE so=SOUTH sp=STOP
   sq=SQUARE sr=SQUARED ss=SANS-SERIF st=STROKE su=SUPERSET sv=SEVENTY sw=SPADES sx=SHORT sy=SHOE sz=SHELL t=VERTICAL
   ta=TAIL tb=TONOS tc=TACK td=TWO-HEADED te=TELEPHONE tf=TONE tg=THOUSAND th=THREE ti=TILDE tj=THROUGH tk=TOP
   tl=TWELVE tm=TIMES tn=TRIANGLE-HEADED to=TORTOISE tp=TRIPLE tq=TRAFFIC tr=TRIANGULAR ts=TEARDROP-SPOKED tt=TURNSTILE
   tu=TURNED tv=TWENTY-FIVE tw=TWO tx=TOP-LIGHTED ty=TWENTY tz=THIRTY-FIVE u=LIGHT ua=AROUND ub=BLUE uc=CURVED
   ud=DOCUMENT ue=EMBEDDING uf=UNIFIED ug=BUILDINGS uh=U-SHAPED ui=UNION uj=SATELLITE uk=UKRAINIAN ul=UNDERLINE
   um=UMBRELLA un=UNDERBAR uo=UP-POINTING up=UPPER uq=TOUCHTONE ur=RUNNING us=UPSILON ut=THIRD uu=BICYCLIST
   uv=UNIVERSAL uw=UPWARDS ux=FLATBREAD v=HEAVY va=VARIA vb=BOOK vc=CLICK vd=DIGAMMA ve=VERY vf=FLORAL vg=PARAGRAPH
   vh=HAIR vi=VINE vj=SYMMETRIC vk=COPRODUCT vl=SPHERICAL vm=MAGNIFYING vn=NOTE vo=VOICED vp=POSITION vq=PITCHFORK
   vr=VRACHY vs=SLASH vt=THEN vu=VULGAR vv=ASCENDING vw=PROPELLER vx=PRECEDING vy=BRACKETED vz=CITYSCAPE w=WITH wa=WAVE
   wb=WITHIN wc=CIRCULAR wd=DIVIDED we=WEST wf=FLYING wg=WIGGLY wh=HEART-SHAPED wi=WITHOUT wl=WHEELCHAIR wm=WOMANS
   wn=WIND wo=WOMAN wp=PUSHPIN wr=REGULUS ws=SUIT wt=WATER x=BAR xa=SEMICIRCULAR xb=BOARD xc=CRESCENT xd=CONSTRUCTION
   xe=CANCELLATION xf=COMPOSITION xg=SEMICOLON xh=COMBINING xi=CHARACTER xj=SUBSCRIPT xk=SNOWFLAKE xl=CHRISTMAS
   xm=CYRILLIC xn=SLEEPING xo=COMPUTER xp=CALENDAR xq=COVERING xr=SECTION xs=SUBGROUP xt=TREE xu=CONTAIN xv=CONTOUR
   xw=CONTROL xx=SNOWMAN xy=CURVING xz=BALLOON y=SYMBOL ya=YANG yb=BETWEEN yc=CORNERS yd=THOUGHT ye=SPEAKER yf=TRIDENT
   yg=BUBBLES yh=POUTING yi=BROKEN yj=SOURCE yk=DIVIDE yl=BOWTIE ym=SHORTS yn=CASTLE yo=SAFETY yp=YPOGEGRAMMENI
   yq=PURPLE yr=POMMEE ys=SOUND yt=THIRTEEN yu=CRYING yv=SULFUR yw=YELLOW yx=TARGET yy=SHADED yz=BLACK-FEATHERED
   z=CIRCLE za=TIGHTLY-CLOSED zb=BOTTLE zc=CHECKER zd=DEGREE ze=ZERO zf=FINGER zg=PARALLELOGRAM zh=DROP-SHADOWED
   zi=ZIGZAG zj=TRANSMISSION zk=DISAPPOINTED zl=DIRECTIONAL zm=CONSECUTIVE zn=THERMOMETER zo=COMMERCIAL zp=PICTURE
   zq=PERCUSSIVE zr=RIGHT-FACING zs=SIMILAR zt=THIRDS zu=PROPORTION zv=FUNCTIONAL zw=TABULATION zx=SUBSTITUTE
   zy=CROSSHATCH zz=DESCENDING"

/-- the pieces of text that recur, after what stands for them -/
def charPieces : String :=
  "! w /$;DOTS-/% n /& a/(;~;/);0 /*o /+;HORIZONTAL-0/, s/.;VERTICAL-0/<e />;SEXTANT-/? d/^ h/_;IDEOGRAPH-/= b/[ TO/] t"

def charNames : String :=
  "20:js;ex mr;q*mr;nm i;kd i;PERCENT i;aj;ah;l pa;r pa;as;pl i;cm;HYPHEN-MINUS;fu,p;sd;db ze;1 on;tw;th;fo;fi;si;se;
   ei;nn)cv;xg;ls i;eu i;g<i;q<mr;z*AT;la c <A;3 B;C;D;E;F;G;H;I;J;K;L;M;N;O;P;Q;R;S;T;U;V;W;X;Y;Z)l,q=r;rv,d;r,q=r;ci
   &e;lw ln;gv&e;la, <A;3 B;C;D;E;F;G;H;I;J;K;L;M;N;O;P;Q;R;S;T;U;V;W;X;Y;Z)l cu=r;t ln;r cu=r;ti|a0:NO-BREAK js;ji ex
   mr;CENT i;POUND i;CURRENCY i;YEN i;yi x;xr i;di;kx i;FEMININE ORDINAL ii;lt?&g q*mr;n*i;jx^y;REGISTERED i;ma;zd i;
   PLUS-MINUS i;jh]w;jh]h;ac&e;MICRO i;PILCROW i;gm m;cd;jh on;MASCULINE ORDINAL ii;rg?&g q*mr;vu fc on qa;3^l;2]h qr)
   ji q<mr;la c <A!gv;5&c;ci;ti;di;rn o;3 AE;C!cd;E!gv;5&c;ci;di;3 I!gv;5&c;ci;di;3 ETH;N!ti;O!gv;5&c;ci;ti;di)mu i;la
   c <O!st;3 U!gv;5&c;ci;di;3 Y!ac;THORN;1, <SHARP S;3 A!gv;5&c;ci;ti;di;rn o;3 AE;C!cd;E!gv;5&c;ci;di;3 I!gv;5&c;ci;
   di;3 ETH;N!ti;O!gv;5&c;ci;ti;di)dv i;la, <O!st;3 U!gv;5&c;ci;di;3 Y!ac;THORN;Y!di;1 c <A!ma(5=v(og(3 C!ac(5 ci(m o(
   ca(3 D!ca(D!st(E!ma(5=v(m o(og(ca(3 G!ci(5=v(m o(cd(3 H!ci(H!st(I!ti(5 ma(bv(og(m o;1, <dy I;c lg IJ(c <J!ci(c <K!cd
   (s <KRA;c <L!ac(5 cd(ca(gm m(st(3 N!ac(5 cd(ca(1, <N PRECEDED BY&h;c <ENG(3 O!ma(5=v(d&c(2 lg OE(<R!ac(5 cd(ca(3 S!
   ac(5 ci(cd(ca(3 T!cd(5 ca(st(3 U!ti(5 ma(bv(rn o(d&c(og(3 W!ci(Y!ci(Y!di;Z!ac(5 m o(ca(1, <lb S;s <B!st;c <B!ho;5
   [PBAR(3]f,i(op O;C!ho(AFRICAN D;D!ho;5[PBAR(1, <tu?k;c <r<E;3 jf;op E;F!ho(G!ho;ga;1, <HV;c <io;3 I!st;K!ho(1, <L!x;
   s <LAMBDA!st;c <tu M;c <N!l^o;s <N!lb r le;c <O!gm]i;5^b(3 OI(P!ho(1 <YR;c <tf]w(c <ESH;<r<ESH lp;s <T!PALATAL^o;c <
   T!ho(5 rt^o;3 U!hb(us;V!ho;Y!ho(Z!st(EZH;4 re(1, <EZH!ta;<tw!st;c <tf fi(<ji gl,p!st;2 WYNN;DENTAL vc;LATERAL vc;
   ALVEOLAR vc;rt vc;1 c <DZ!ca;c <D!s <Z!ca;s <DZ!ca;c <LJ;c <L!s <J;s <LJ;c <NJ;c <N!s <J;s <NJ;c <A!ca(3 I!ca(O!ca(U
   !ca(5?i%ma(7&c(ca(gv(1, <tu E;c <A!di%ma(5 m o%ma(3 AE!ma(G!st(G!ca(K!ca(O!og(6%ma(3 EZH!ca(1, <J!ca;c <DZ;c <D!s <
   Z;s <DZ;c <G!ac(3 HWAIR;WYNN;N!gv(A!rn o%ac(AE!ac(O!st%ac(A!d gv(A!ji=v(E!d gv(E!ji=v(I!d gv(I!ji=v(O!d gv(O!ji=v(R!
   d gv(R!ji=v(U!d gv(U!ji=v(S!cm p(T!cm p(YOGH(H!ca(N!lb r le;1, <D!cx;c <OU(3 Z!ho(A!m o(E!cd(O!di%ma(5]i%ma(m o(7%ma
   (3 Y!ma(1, <L!cx;3 N!cx;T!cx;dy J;DB?r;QP?r;1 c <A!st;3 C!st(L!x;T!dg,t;1, <S!SWASH]a;s <Z!SWASH]a;c <gl,p(3 B!st;U
   x;tu V;E!st(J!st(s Q!h*ta;1, <Q!h*ta;c <R!st(c <Y!st(s <tu A;3&p;tu&p;B!ho;op O;C!cx;D!ta;D!ho;r<E;jf;jf!ho;op E;r<
   op E;6!ho;3 cl r<op E;dy J!st;G!ho;sj G;1 e, c G;s <ga;3 RAMS^b;tu H;H!ho;HENG!ho;I!st;io;1 e, c I;s <L!gm]i;5 BELT;
   rt^o;3 LEZH;tu M;5!lb le;3 M!ho;N!l^o;5 rt^o;1 e, c N;s <BARRED O;e, c OE;s <cl om;3 PHI;tu R;5!lb le;w^o;3 R!lb le;
   5]a;fx;3 r<R!fx;1 e, c R;4 ji R;1, <S!ho;3 ESH;dy J!st%ho;SQUAT r<ESH;ESH!cx;tu T;T!rt^o;U x;us;V!ho;tu V;4 W;Y;1 e,
   c Y;s <Z!rt^o;5 cx;3 EZH;4!cx;1 <gl,p;2 PHARYNGEAL v*FRICATIVE;ji gl,p;STRETCHED C;BILABIAL vc;s c B;1, <cl op E;e,
   c G!ho;4 H;1, <J!CROSSED-TAIL;s <tu K;e, c L;s <Q!ho;<gl,p!st;<r<gl,p!st;s <DZ?r;3 DEZH?r;DZ?r!cx;TS?r;TESH?r;TC?r!
   cx;FENG?r;LS?r;LZ?r;1 <BILABIAL zq;<BIDENTAL zq;s <tu H!fx;7%ta)md e, H;3 H!ho;J;R;tu R;5!ho;3 c ji R;W;Y;2 pm;d pm;
   tu cm;ah;r<cm;r^l rn;l^l rn;gl,p;r<gl,p;l&r;r&r;UP&r;k&r;ci&e)ca;md <t ln;2 ma;ac&e;gv&e;lw] ln;3 ma;gv&e;ac&e;2]r
   cv;hl]r cv;cq r^l rn;cq l^l rn;UP]c;k]c;pl i;mi i)bv;m o;rn o;og;s]i;d&c&e;md <RHOTIC^o;2 co&e;s ga;3 L;S;X;r<gl,p;2
   EXTRA-HIGH]f x;gh]f x;MID]f x;lw]f x;EXTRA-LOW]f x;YIN?z]f mr;ya?z]f mr;VOICING;UNASPIRATED;d&h;lw k&r;3 UP&r;l&r;r
   &r;rn;2 gm gv&e;3? gv&e;d&c&e;2 lw]i;ra cv;BEGIN gh]f;h<gh]f;BEGIN lw]f;h<lw]f;SHELF;op SHELF;lw l&)xh gv&e;1&c&e;ci
   &e;ti;ma;oj;bv;m o;di;h*o;rn o;d&c&e;ca;t ln o;d] ln o;d gv&e;CANDRABINDU;ji=v;tu cm o;cm o;r<cm o;cm *r;gv&<p;ac&<
   p;l]c p;r]c p;l&g o;hb;l^l rn p;UP]c p;k]c p;pl i p;mi i p;PALATALIZED^*p;rt^*p;m p;di p;rn p;cm p;cd;og;t ln p;bz
   p;ji? ARCH p;ca p;ci&<p;bv p;ji=v p;ti p;ma p;lw ln;d lw ln;ti ov;sx,t ov;lb,t ov;sx,d ov;lb,d ov;r^l rn p;ji=z p;sq
   p;SEAGULL p;X o;t]i;d oj;gv]f mr;ac]f mr;gr gp;2 KORONIS;dl]b;yp;1=z o;eu i p;d] ln p;l&g p;n*ti o;hk o;al q[ o;l r&
   p;uw& p;GRAPHEME^j;r&r o;l^l rn o;FERMATA;X p;l&r p;r&r p;3%UP&r p;1 r^l rn o;m *r;as p;d rn p;zi o;d=v p;2=v;ma;ma
   p;ti;ji=v;g& p;1 la, <A;4 E;I;O;U;C;D;H;M;R;T;V;X)gr c <HETA(3 ka SAMPI(1 na i;l*na i;c <PAMPHYLIAN vd;~|37a:gr yp;1
   , r<lu qs y;s?d lu qs y;s r<dd lu qs y;q<mr;c <YOT|384:gr]b;1?l]b;c e&p!tb;ANO TELEIA;c <ep!tb;3=e!tb;io!tb|38c:gr c
   <oi!tb|38e:gr c <us!tb;3 om!tb;1, <io!dl%tb;c e&p;3 BETA;ga;dk;ep;ZETA;be;qm;io;KAPPA;LAMDA;MU;NU;XI;oi;PI;jr|3a3:gr
   c <qs;3 TAU;us;PHI;CHI;PSI;om;io!dl;us!dl;1, e&p!tb;3 ep!tb;be!tb;io!tb;us!dl%tb;ap;BETA;ga;dk;ep;ZETA;be;qm;io;
   KAPPA;LAMDA;MU;NU;XI;oi;PI;jr;FINAL qs;qs;TAU;us;PHI;CHI;PSI;om;io!dl;us!dl;oi!tb;us!tb;om!tb;1 c KAI y;BETA y;qm y;
   us!h*y;3&c%h*y;di%h*y;1 PHI y;PI y;KAI y;<ka kp;s <ka kp;<STIGMA;s <STIGMA;<vd;s <vd;<kp;s <kp;<SAMPI;s <SAMPI)
   COPTIC c <SHEI(3 FEI(KHEI(HORI(GANGIA(SHIMA(DEI(0 gr KAPPA y;1 jr y;lu qs y;<YOT;c qm y;lu ep y;r<lu ep y;c <SHO(c
   lu qs y;c <SAN(jr!st y;c r<lu qs y;2?d lu qs y;r<dd lu qs y)xm c <IE!gv;3 IO;DJE;GJE;uk IE;DZE;by I;YI;JE;LJE;NJE;
   TSHE;KJE;I!gv;sx U;DZHE;A;BE;VE;GHE;DE;IE;ZHE;ZE;I;sx I;KA;EL;EM;EN;O;PE;ER;ES;TE;U;EF;HA;TSE;CHE;SHA;SHCHA;qh i;
   YERU;jx i;E;YU;YA;1, <A;3 BE;VE;GHE;DE;IE;ZHE;ZE;I;sx I;KA;EL;EM;EN;O;PE;ER;ES;TE;U;EF;HA;TSE;CHE;SHA;SHCHA;qh i;
   YERU;jx i;E;YU;YA;IE!gv;IO;DJE;GJE;uk IE;DZE;by I;YI;JE;LJE;NJE;TSHE;KJE;I!gv;sx U;DZHE;1 c <om(3 YAT(ig E(LITTLE
   YUS(ig LITTLE YUS(BIG YUS(ig BIG YUS(KSI(PSI(FITA(IZHITSA(4!d gv&e(3 UK(ROUND om(om!TITLO(OT(kp(1 kz i)xh xm TITLO;2
   PALATALIZATION;da PNEUMATA;ps PNEUMATA;POKRYTIE;hu kz i;MILLIONS i)xm c e,x I!ta(3 SEMISOFT i(ER!qt(GHE!UPTURN(5,t(
   gm^o(3 ZHE!ds(ZE!ds(KA!ds(5],t(st(3 BASHKIR KA(EN!ds(2 lg EN GHE(<PE!gm^o(3&k HA(ES!ds(TE!ds(STRAIGHT U(5!st(2 <HA!
   ds(lg TE TSE(<CHE!ds(5],t(3 SHHA(ak CHE(5!ds(1 <PALOCHKA;c <ZHE!bv(3 KA!ho(EL!ta(EN!ho(5]a(3 KHAKASSIAN CHE(EM!ta(1,
   <PALOCHKA;c <A!bv(5?i(2 lg A IE(<IE!bv(3 jf(jf!di(ZHE!di(ZE!di(ak DZE(I!ma(I!di(O!di(BARRED O(5!di(3 E!di(U!ma(5?i(d
   &c(3 CHE!di(GHE!ds(YERU!di(GHE!st%ho(HA!ho(5,t(3 KOMI DE(4 DJE(ZJE(DZJE(LJE(NJE(SJE(TJE(3 r<ZE(EL!ho(LHA(RHA(YAE(QA(
   WE(ALEUT KA(EL!gm^o(EN!gm^o(PE!ds(SHHA!ds(EN!l^o(DZZHE(DCHE(EL!ds;~|531:af c <AYB;3 BEN;GIM;DA;ECH;ZA;EH;ET;TO;ZHE;
   INI;LIWN;XEH;CA;KEN;HO;JA;GHAD;CHEH;MEN;YI;NOW;SHA;VO;CHA;PEH;JHEH;RA;SEH;VEW;TIWN;REH;CO;YIWN;PIWR;KEH;OH;
   FEH|559:af md <l^l rn;1&h;EMPHASIS mr;ex mr;cm;q<mr;ABBREVIATION mr;s <tu AYB;3 AYB;BEN;GIM;DA;ECH;ZA;EH;ET;TO;ZHE;
   INI;LIWN;XEH;CA;KEN;HO;JA;GHAD;CHEH;MEN;YI;NOW;SHA;VO;CHA;PEH;JHEH;RA;SEH;VEW;TIWN;REH;CO;YIWN;PIWR;KEH;OH;FEH;2 lg
   ECH YIWN;<YI!st;1 fu,p;hy|58d:zr&f ETERNITY i;li&f ETERNITY i;af DRAM i|1e00:la c <A!rn p(3 B!m o(5 m p(ln p(3 C!cd%
   ac(D!m o(5 m p(ln p(cd(ci p(3 E!ma%gv(7&c(5 ci p(ti p(cd%bv(3 F!m o(G!ma(H!m o(5 m p(di(cd(bv p(3 I!ti p(I!di%ac(K!
   ac(5 m p(ln p(3 L!m p(7%ma(5 ln p(ci p(3 M!ac(5 m o(m p(3 N!m o(5 m p(ln p(ci p(3 O!ti%ac(7?i(5 ma%gv(7&c(3 P!ac(P!m
   o(R!m o(6 p(p%ma(5 ln p(3 S!m o(5 m p(ac%m o(ca%m o(m p%m o(3 T!m o(5 m p(ln p(ci p(3 U!di p(5]i p(ci p(ti%ac(ma%di(
   3 V!ti(V!m p(W!gv(5&c(di(m o(m p(3 X!m o(X!di(Y!m o(Z!ci(5 m p(ln p(1, <H!ln p;3 T!di;W!rn o;Y!rn o;A!r^l rn;lb S!m
   o;6?g,t;gh,t;1 c <SHARP S;s <dk;c <A!m p(5^*o(ci%ac(7 gv(h*o(ti(m p(5=v%ac(7 gv(h*o(ti(m p(3 E!m p(5^*o(ti(ci%ac(7
   gv(h*o(ti(m p(3 I!h*o(I!m p(O!m p(5^*o(ci%ac(7 gv(h*o(ti(m p(5^b%ac(7 gv(h*o(ti(m p(3 U!m p(5^*o(hb%ac(7 gv(h*o(ti(m
   p(3 Y!gv(5 m p(h*o(ti(3 MIDDLE-WELSH LL(4 V(3 Y!lp(0 gr, e&p!ps;5?a;ps%va;da%va;ps%ox;da%ox;ps%gp;da%gp;1 c e&p!ps;5
   ?a;ps%va;da%va;ps%ox;da%ox;ps%gp;da%gp;1, <ep!ps;5?a;ps%va;da%va;ps%ox;da%ox|1f18:gr c <ep!ps;5?a;ps%va;da%va;ps%ox;
   da%ox|1f20:gr, <be!ps;5?a;ps%va;da%va;ps%ox;da%ox;ps%gp;da%gp;1 c <be!ps;5?a;ps%va;da%va;ps%ox;da%ox;ps%gp;da%gp;1,
   <io!ps;5?a;ps%va;da%va;ps%ox;da%ox;ps%gp;da%gp;1 c <io!ps;5?a;ps%va;da%va;ps%ox;da%ox;ps%gp;da%gp;1, <oi!ps;5?a;ps%
   va;da%va;ps%ox;da%ox|1f48:gr c <oi!ps;5?a;ps%va;da%va;ps%ox;da%ox|1f50:gr, <us!ps;5?a;ps%va;da%va;ps%ox;da%ox;ps%gp;
   da%gp|1f59:gr c <us!da|1f5b:gr c <us!da%va|1f5d:gr c <us!da%ox|1f5f:gr c <us!da%gp;1, <om!ps;5?a;ps%va;da%va;ps%ox;
   da%ox;ps%gp;da%gp;1 c <om!ps;5?a;ps%va;da%va;ps%ox;da%ox;ps%gp;da%gp;1, e&p!va;5 ox;3 ep!va;5 ox;3=e!va;5 ox;3 io!
   va;5 ox;3 oi!va;5 ox;3 us!va;5 ox;3 om!va;5 ox|1f80:gr, e&p!ps%yp;5?a%yp;ps%va%yp;da%va%yp;ps%ox%yp;da%ox%yp;ps%gp%
   yp;da%gp%yp;1 c e&p!ps%pr;5?a%pr;ps%va%pr;da%va%pr;ps%ox%pr;da%ox%pr;ps%gp%pr;da%gp%pr;1, <be!ps%yp;5?a%yp;ps%va%yp;
   da%va%yp;ps%ox%yp;da%ox%yp;ps%gp%yp;da%gp%yp;1 c <be!ps%pr;5?a%pr;ps%va%pr;da%va%pr;ps%ox%pr;da%ox%pr;ps%gp%pr;da%gp
   %pr;1, <om!ps%yp;5?a%yp;ps%va%yp;da%va%yp;ps%ox%yp;da%ox%yp;ps%gp%yp;da%gp%yp;1 c <om!ps%pr;5?a%pr;ps%va%pr;da%va%
   pr;ps%ox%pr;da%ox%pr;ps%gp%pr;da%gp%pr;1, e&p!vr;5 ma;va%yp;yp;ox%yp|1fb6:gr, e&p!gp;6%yp;1 c e&p!vr;5 ma;va;ox;pr;1
   KORONIS;pr;ps;gp;dl%gp;s <be!va%yp;5 yp;ox%yp|1fc6:gr, <be!gp;6%yp;1 c <ep!va;5 ox;3=e!va;5 ox;pr;1 ps%va;3 ox;gp;1,
   <io!vr;5 ma;dl%va;7 ox|1fd6:gr, <io!gp;5?l%gp;1 c <io!vr;5 ma;va;ox|1fdd:gr?a%va;3 ox;gp;1, <us!vr;5 ma;dl%va;7 ox;3
   jr!ps;5?a;3 us!gp;5?l%gp;1 c <us!vr;5 ma;va;ox;3 jr!da;1?l%va;3 ox;1 va|1ff2:gr, <om!va%yp;5 yp;ox%yp|1ff6:gr, <om!
   gp;6%yp;1 c <oi!va;5 ox;3 om!va;5 ox;pr;1 ox;da|2000:EN qb;EM qb;EN js;EM js;THREE-PER-EM js;FOUR-PER-EM js;
   SIX-PER-EM js;lf js;pu js;THIN js;vh js;z<WIDTH js;2 NON-JOINER;hj)lh mr;rl mr;hy;NON-BREAKING^y;lf?h;EN?h;EM?h;hz
   x;d] ln;d lw ln;l,n q*mr;r,n q*mr;sn LOW-9 q*mr;sn^h q*mr;l? q*mr;r? q*mr;d LOW-9 q*mr;d^h q*mr;dw;d?w;bu;tr=u;on m
   LEADER;tw m LEADER;hz es;HYPHENATION pq;ln,g;vg,g;lh ue;rl ue;POP zl FORMATTING;lh OVERRIDE;rl OVERRIDE;nw NO-BREAK
   js;PER MILLE i;PER gt]g i;pm;d pm;tp pm;r<pm;1? pm;tp pm)kc;sn lt&g q*mr;sn rg&g q*mr;REFERENCE mr;d ex mr;ir;oj;
   UNDERTIE;xi TIE;kc iw pq;ASTERISM;hy=u;fc vs;l,q=r!QUILL;r,q=r!QUILL;d q<mr;q<ex mr;ex q<mr;TIRONIAN i ET;r<PILCROW
   i;b f=u;b g=u;lw&s;r<xg;CLOSE UP;tw ASTERISKS ALIGNED VERTICALLY;z*mi i;SWUNG?h;ji UNDERTIE;fk pu mr;th m pu;qd pm;
   f*m pu;fi m pu;tw m pu;f*m mr;dd co;TRICOLON;t f*df;m<mh js;WORD^j;FUNCTION APPLICATION;INVISIBLE]m;1,g;pl|2066:lh
   il;rl il;fz STRONG il;POP zl il;INHIBIT vj SWAPPING;ACTIVATE vj SWAPPING;INHIBIT ARABIC fm SHAPING;ACTIVATE ARABIC
   fm SHAPING;NATIONAL?b SHAPES;NOMINAL?b SHAPES;jh ze;1 la, <I|2074:jh fo;1 fi;si;se;ei;nn;pl i;mi;eu i;l pa;r pa;la,
   <N)xj ze;1 on;tw;th;fo;fi;si;se;ei;nn;pl i;mi;eu i;l pa;r pa|2090:la xj, <A;4 E;O;X;jf;H;K;L;M;N;P;S;
   T|20a0:EURO-CURRENCY i;cv i;CRUZEIRO i;FRENCH FRANC i;LIRA i;MILL i;NAIRA i;PESETA i;RUPEE i;WON i;NEW SHEQEL i;DONG
   i;EURO i;KIP i;TUGRIK i;DRACHMA i;GERMAN PENNY i;PESO i;GUARANI i;AUSTRAL i;HRYVNIA i;CEDI i;LIVRE[URNOIS i;SPESMILO
   i;TENGE i;INDIAN RUPEE i;TURKISH LIRA i;NORDIC mr i;MANAT i;RUBLE i;LARI i;BITCOIN i;SOM i|20d0:xh l^a o;1 r^a o;lb]
   ln ov;sx] ln ov;at& o;ck& o;l& o;r& o;rn ov;ck rn ov;at rn ov;th?f o;f*df o;ek z;2,q;dm;z=c;1 l r& o;ek jv;2 KEYCAP;
   UPWARD p*dt;1 rv,d ov;d],t ov;ANNUITY y;tp UNDERDOT;WIDE=z o;f& ov;lb?,d ov;g^a!ba?o;f^a!ba?o;l& p;r& p;as
   o|2100:ACCOUNT OF;ADDRESSED[ jt SUBJECT;du c C;zd CELSIUS;c<ln y;CARE OF;CADA UNA;EULER CONSTANT;SCRUPLE;zd
   FAHRENHEIT;sj, G;sj c H;bt c H;du c H;PLANCK CONSTANT;2 oa]w PI)sj c I;bt c I;sj c L(L B x y;du c N;NUMERO i;ys
   RECORDING kx;sj c P;du c P;2 Q)sj c R;bt c R;du c R;PRESCRIPTION TAKE;RESPONSE;SERVICE mr;t<i;TRADE mr i;VERSICLE;du
   c Z;OUNCE i;OHM i;ji OHM i;bt c Z;tu gr, <io;KELVIN i;ANGSTROM i;sj c B;bt c C;ESTIMATED y;sj, E;1 c E;c F)tu c F;sj
   c M;sj, O;ALEF y;BET y;GIMEL y;DALET y;ib yj;r*c Q;FACSIMILE i;du, PI;1, ga;c ga;c PI;ny jl)tu,s c G;3 L)re,s c L;tu
   ,s c Y;du ITALIC c D(2, E;3 I;J)PROPERTY ln;tu&j;PER i;AKTIESELSKAB;tu, F;y fj SAMARITAN yj;vu fc on SEVENTH;3
   NINTH;TENTH;ut;2]w zt;on FIFTH;tw nf;th nf;f*nf;on SIXTH;fi SIXTHS;on eg;th eh;fi eh;s<eh)fc NUMERATOR on;rm na on;2
   ]w;th;fo;fi;si;se;ei;nn;gt;ee;tl;FIFTY;on^u;fi^u;on]g)s rm na on;3]w;th;fo;fi;si;se;ei;nn;gt;ee;tl;FIFTY;on^u;fi^u;
   on]g)rm na on]g C D;2 fi]g;gt]g;r<on^u)la, <r<C;rm na,i LATE fm;2 FIFTY EARLY fm;3]g;2 on^u]g)vu fc z<zt;tu?b]w;2
   ]h|2190:f&;uw&;g&;do&;l r&;UP k&;an we&;an ea&;s*ea&;s*we&;f&!st;g&!st;f wa&;g wa&;f]w^c&;uw]w^c&;g]w^c&;d*tw^c&;f&!
   ta;g&!ta;f& fr x;uw& fr x;g& fr x;do& fr x;UP k&!BASE;f&!ho;g&!ho;f&!lp;g&!lp;l r wa&;l r&!st;d*zi&;uw&!kt f;4 g)do&
   !kt f;4 g)g&!cn?o;do&!cn f;at]k jj&;ck]k jj&;an we&[ lb x;f&[ x oa g&[ x;at op z&;ck op z&;f^a!ba uw;4?o)uw^a!ba g;4
   f)g^a!ba uw;4?o)d*ha!ba g;4 f)g& oa f&;uw& f OF?o&;f& oa g&;f pc&o;uw pc&o;g pc&o;d*pc&o;f^a oa g^a;g^a oa f^a;f?&!
   st;l r?&!st;g?&!st;f?&;uw?&;g?&;d*d&;l r?&;UP k?&;an w<d&;an ea?&;s*ea?&;s*w<d&;f]p&;g]p&;f qg&;g qg&;uw&!d,t;do&!d
   ,t;f?j&;uw?j&;g?j&;d*dj&;f&[ x;g&[ x;f^&;uw^&;g^&;d*h&;uw^& fr x;3 ON PEDESTAL;5!hz x;w] x;2?&;4 ON PEDESTAL)g^& fr
   WALL;an we&[ cn;s*ea&[ cn;UP k^&;r&!s z;do& f OF uw&;th g&o;f&!t,t;g&!t,t;l r&!t,t;f&!d],t;g&!d],t;l r&!d],t;f oh&;g
   oh&;l r oh&;fj ALL;COMPLEMENT;PARTIAL DIFFERENTIAL;THERE EXISTS;1?q n*EXIST)em SET;INCREMENT;NABLA;el OF;n*AN el OF;
   s el OF;cb AS mm;dq n*xu AS mm;s cb AS mm;h<OF PROOF;ny pd;1 vk;jl)mi i;MINUS-OR-PLUS i;m pl;dv vs;SET mi;as ot;rn
   ot;bu ot;sq ROOT;CUBE ROOT;FOURTH ROOT;PROPORTIONAL[;if;r&g;ag;mb&g;vl&g;DIVIDES;dq n*yk;pb[;n*pb[;lc n;lc OR;in;ui;
   it;d it;tp it;xv it;SURFACE it;VOLUME it;ck it;ck xv it;at xv it;THEREFORE;BECAUSE;RATIO;zu;m mi;EXCESS;GEOMETRIC
   zu;hk;ti ot;r<ti;ji LAZY S;SINE wa;WREATH pd;n*ti;mi]i;ay q[;no&y q[;ax q[;ax&b n*ACTUALLY q[;nh&x jn ACTUALLY q[;al
   q[;no&l q[;al q OR q[;tp]i;ALL q[;ev[;gy ev[;DIFFERENCE yb;APPROACHES jt LIMIT;gy q[;ax q[ OR jt im OF;im OF OR&x q
   [;cv eu;eu cv;rn IN q[;rn q[;CORRESPONDS[;ESTIMATES;EQUIANGULAR[;sa eu;dk q[;q[ BY DEFINITION;mb BY;QUESTIONED q[;n*
   q[;ia[;n*ia[;STRICTLY ev[;ls OR q[;g<OR q[;ls oa q[;g<oa q[;ls&b n*q[;ge&b n*q[;MUCH ls;1 ge)yb;n*ev[;1 ls;ge)nh ls
   jn q[;nh g<jn q[;ls OR ev[;g<OR ev[;nh ls jn ev[;nh g<jn ev[;ls OR ge;g<OR ls;nh ls jn ge;nh g<jn ls;pe;sc;p<OR q[;
   sc OR q[;p<OR ev[;sc OR ev[;dq n*PRECEDE;2 SUCCEED)sb OF;su OF;n*A,b OF;2,u OF)sb OF OR q[;su OF OR q[;nh A,b OF jn
   q[;2,u OF jn q[)sb OF!n*q[;su OF!n*q[;MULTISET;1 mu;ui)sq im OF;1 ol OF;im OF OR q[;ol OF OR q[;CAP;CUP)cc pl;1 mi;
   tm;dv vs;m ot;rn ot;as ot;eu;dh)sr pl;1 mi;tm;m ot)r]c;l]c;k]c;UP]c;ASSERTION;MODELS;TRUE;FORCES;tp] x r]t;d] x? r
   ]t;dq n*PROVE;n*TRUE;dq n*FORCE;NEGATED?] x? r]t;p<UNDER rb;sc UNDER rb;nr xs OF;cb AS nr xs;nr xs OF OR q[;cb AS nr
   xs OR q[;ol OF;im OF;ml;HERMITIAN CONJUGATE MATRIX;INTERCALATE;XOR;NAND;jn;r&g!aq;r?t;ny lc n;2 OR;1 in;ui)dm ot;m
   ot;sa ot;dv]m;yl;l nr FACTOR jk pd;r nr FACTOR jk pd;l jk pd;r jk pd;r<ti eu;cu lc OR;2 n)d,b;1,u;in;ui)vq;q%pb[;ls!
   m;ge!m;v<MUCH ls;2 ge)ls q[ OR ge;g<q[ OR ls;q[ OR ls;3 ge;pe;sc)dq n*PRECEDE OR q;2 SUCCEED OR q)n*sq im OF OR q[;2
   ol OF OR q[)sq im OF OR n*q[;sq ol OF OR n*q[;ls&b n*ev[;ge&b n*ev[;pe&b n*ev[;sc&b n*ev[;n*nr xs OF;dq n*xu AS nr
   xs;n*nr xs OF OR q[;dq n*xu AS nr xs OR q;t es;MIDLINE^z es;UP r?g es;k r?g es;el OF!lb^z,t;3] x AT^<OF^z,t)s el OF!
   t x AT^<OF^z,t;el OF!m o;3 oe)s el OF!oe;el OF!un;3]w^z STROKES)cb!lb^z,t;2] x AT^<OF^z,t)s cb!t x AT^<OF^z,t;cb!oe;
   s cb!oe;Z nb BAG MEMBERSHIP;DIAMETER i;ec&;kh;UP&r;k&r;PROJECTIVE;PERSPECTIVE;WAVY ln;l CEILING;r CEILING;l FLOOR;r
   FLOOR;b*r CROP;b*l CROP;tk r CROP;tk l CROP;r<n*i;sq lz;aq;SEGMENT;SECTOR;t<RECORDER;vp ii;VIEWDATA,q;pz OF INTEREST
   i;tu n*i;WATCH;hg;tk l cn;tk r cn;b*l cn;b*r cn;tk^l it;b*hl it;FROWN;SMILE;UP&r yb]w^z BARS;OPTION ky;ERASE[ jt r;X
   IN A rc=x;ke;lt&g=r;rg&g=r;ERASE[ jt l;BENZENE rn;CYLINDRICITY;ALL AROUND-PROFILE;SYMMETRY;TOTAL RUNOUT;DIMENSION
   ORIGIN;CONICAL TAPER;SLOPE;COUNTERBORE;COUNTERSINK;APL zv y I-BEAM;3 SQUISH qb;qb q;4 yk;dm;JOT;z;3 z jg;z JOT;vs x;
   bc x;qb vs;4=c;ls;ge;3 f VANE;g VANE;qb f&;qb g&;z=c;k]c un;dk jg;qb k kc;qb?k;k]c JOT;uw VANE;qb uw&;UP]c oe;DEL
   jg;qb UP kc;qb DEL;UP]c JOT;d*VANE;qb?o&;QUOTE un;dk un;dm un;JOT un;z un;UP,y JOT;QUOTE qb;z,a;qb cv;UP]c?i;DEL?i;
   sa?i;JOT?i;z?i;k,y jg;l,y jg;ti?i;g<di;cm x;DEL]i;ZILDE;jg]i;xg un;qb n*q;qb qe;k kc]i;UP kc]i;io;jr;om;ap un;ep un;
   i*un;om un;ap)n*cw mr;r&g!d*zi&;SHOULDERED op=x;jb y;t ln!gm m;iw y;CONTINUOUS ul y;DISCONTINUOUS ul y;EMPHASIS y;xf
   y;h,q!c<t ln;ENTER y;ALTERNATIVE ky y;HELM y;cc^z x!NOTCH;cc?t k;yi z!NORTHWEST&;UNDO y;MONOSTABLE y;HYSTERESIS y;
   OPEN-CIRCUIT-OUTPUT H-TYPE y;1 L-TYPE y)PASSIVE-PULL-DOWN-OUTPUT y;PASSIVE-PULL-UP-OUTPUT y;DIRECT CURRENT y fm]w;
   SOFTWARE-FUNCTION y;APL zv y qb;DECIMAL,g ky y;PREVIOUS px;NEXT px;PRINT jv y;CLEAR jv y;l pa up^o;2 et;l*ho)r pa up
   ^o;2 et;l*ho)l,q=r up cn;3 et;l*cn)r,q=r up cn;3 et;l*cn)l cu=r up^o;3 gm pv;l*ho)cu=r et;r cu=r up^o;3 gm pv;l*ho)
   it et;hz ln et;up l OR l*r cu=r xr;up r OR l*l cu=r xr;jl]k;jl=o;tk,q=r;b*sq=r;3 oa]k,q=r)RADICAL y=o;l]=x ln;r]=x
   ln;hz SCAN LINE-1;2 LINE-3;LINE-7;LINE-9)DENTISTRY y u]%tk r;5=*r;3]!z;k%hz!z;UP%hz!z;t!dt;k%hz!dt;UP%hz!dt;t%wa;k%
   hz!wa;UP%hz!wa;k%hz;UP%hz;t%tk l;5=*l)sq FOOT;kr y;EJECT y;t ln et;METRICAL=v;1 lb oa,x;sx oa lb;lb oa]w ym;tw ym oa
   lb;3 jo;1 TRISEME;TETRASEME;PENTASEME)ej GROUND;FUSE;tk pa;b*pa;tk cu=r;b*cu=r;tk]*sz=r;b*t*sz=r;h TRAPEZIUM;BENZENE
   rn!z;STRAIGHTNESS;FLATNESS;AC CURRENT;ELECTRICAL in;DECIMAL EXPONENT y;b rg??t;1 lt??t;u*d?t;dp??t;rg??t!t x;lt??t!t
   x;rg?t!d] x)ALARM qq;STOPWATCH;TIMER qq;hg!FLOWING SAND;b m<lt?t;2 rg?t;u*dt;dp?t)d] x;b,q fj,p;b z fj RECORD;POWER
   y;1 ON-OFF y;ON y;SLEEP y)OBSERVER EYE y;y fj NULL;2 START OF HEADING;4 TEXT;2^<OF TEXT;4 zj;2 ENQUIRY;av;jb;
   BACKSPACE;hz zw;ln FEED;t zw;fm FEED;CARRIAGE kr;SHIFT OUT;3 IN;2 DATA LINK ESCAPE;DEVICE xw on;4]w;th;fo;2 ne&v;
   SYNCHRONOUS IDLE;h<OF zj=l;CANCEL;h<OF me;zx;ESCAPE;kf,g;GROUP,g;RECORD,g;UNIT,g;js;DELETE)BLANK y;op=x;y fj
   NEWLINE;2 DELETE fm]w;zx fm]w|2440:OCR^o;1 CHAIR;FORK;ji FORK;BELT BUCKLE;BOW TIE;BRANCH BANK ik;AMOUNT OF cw;dh;
   CUSTOMER ACCOUNT nm;d=c|2460:cc?b on;2]w;th;fo;fi;si;se;ei;nn;1 nm gt;2 ee;tl;yt;fd;ff;ju;qf;eb;nc;ty)ph?b on;2]w;
   th;fo;fi;si;se;ei;nn;1 nm gt;2 ee;tl;yt;fd;ff;ju;qf;eb;nc;ty)db on fu,p;1]w fu,p;th fu,p;f*fu,p;fi fu,p;si fu,p;s<fu
   ,p;ei fu,p;nn fu,p)nm gt fu,p;1 e<fu,p;tl fu,p;yt fu,p;fd fu,p;ff fu,p;ju fu,p;qf fu,p;eb fu,p;nc fu,p;ty fu,p)ph la
   , <A;4 B;C;D;E;F;G;H;I;J;K;L;M;N;O;P;Q;R;S;T;U;V;W;X;Y;Z)cc la c <A;4 B;C;D;E;F;G;H;I;J;K;L;M;N;O;P;Q;R;S;T;U;V;W;X;
   Y;Z;2, <A;4 B;C;D;E;F;G;H;I;J;K;L;M;N;O;P;Q;R;S;T;U;V;W;X;Y;Z;1?b ze)n<cc nm ee;3]l;yt;fd;ff;ju;qf;eb;nc;ty)d cc?b
   on;3]w;th;fo;fi;si;se;ei;nn;2 nm gt)n<cc?b ze;bx DRAWINGS u^z;2 v^z;u];v];u]p?h^z;v]p?h^z;u]p?h];v]p?h];u qd?h^z;v
   qd?h^z;u qd?h];v qd?h];u k%r;k u%r v;k v%r u;v k%r;u k%l;k u%l v;k v%l u;v k%l;u UP%r;UP u%r v;UP v%r u;v UP%r;u UP%
   l;UP u%l v;UP v%l u;v UP%l;u]%r;t u%r v;UP v%r k u;k v%r UP u;t v%r u;k u%r UP v;UP u%r k v;v]%r;u]%l;t u%l v;UP v%l
   k u;k v%l UP u;t v%l u;k u%l UP v;UP u%l k v;v]%l;u k%hz;l v%r k u;r v%l k u;k u%hz v;k v%hz u;r u%l k v;l u%r k v;v
   k%hz;u UP%hz;l v%r UP u;r v%l UP u;UP u%hz v;UP v%hz u;r u%l UP v;l u%r UP v;v UP%hz;u]%hz;l v%r] u;r v%l] u;t u%hz
   v;UP v%k^z u;k v%UP^z u;t v%hz u;l UP v%r k u;r UP v%l k u;l k v%r UP u;r k v%l UP u;k u%UP^z v;UP u%k^z v;r u%l] v;
   l u%r] v;v]%hz;u??h^z;v??h^z;u??h];v??h];d^z;d];k,n%r?;k?%r,n;d k%r;k,n%l?;k?%l,n;d k%l;UP,n%r?;UP?%r,n;d UP%r;UP,n%
   l?;UP?%l,n;d UP%l;t,n%r?;t?%r,n;d]%r;t,n%l?;t?%l,n;d]%l;k,n%hz?;k?%hz,n;d k%hz;UP,n%hz?;UP?%hz,n;d UP%hz;t,n%hz?;t?%
   hz,n;d]%hz;u&q k%r;6 l;4 UP%l;6 r;3?g up r[ l*l;5 l[ l*r;4 co;3 l;UP;r;k;2 v l;3 UP;r;k;2 u l%v r;u UP%v k;v l%u r;v
   UP%u k)up^l=l;l*on eg=l;2 qa=l;1]h eh=l;hl=l;fi eh=l;th qr=l;s<eh=l)fu=l;l,<eh=l;1]h qr=l;fi eh=l;hl=l;th eh=l;on qa
   =l;2 eg=l)r^l=l;u ks;m<ks;DARK ks;up on eg=l;r on eg=l;qu l*l;2 r;1 up l;3%l*l%l*r;5 r;4 up r%l*l;8 r;2 r;r%l*l;6%l*
   r)b,q;h,q;2!ru yc;cg=,,q)sq!hz fb;2] fb;ORTHOGONAL zy fb;up l[ l*r fb;up r[ l*l fb;dg zy fb)b,,q;h,,q;b rc;h rc;b]
   rc;h] rc;b zg;h zg;b u*dt;h u*dt;b u*s?t;h u*s?t;b rg?t;h rg?t;b rg,?t;h rg,?t;b rg pk;h rg pk;b?p?t;h?p?t;b?p,?t;h
   ?p,?t;b lt?t;h lt?t;b lt,?t;h lt,?t;b lt pk;h lt pk;b?m;h?m;2 cg=,?m)FISHEYE;lz;h z;dd z;z!t fb;BULLSEYE;b z;z!l^l=;
   2 r^l=;l*hl=;up^l=;up r qu=;ALL&b up l qu=)l^l= z;r^l= z;iv=u;iv^ z;up^l iv^ z;l*hl iv^ z;up l qu wc&q;up r qu wc&q;
   l*r qu wc&q;l*l qu wc&q;up^l z;l*hl z;b l*r?t;2 l?t;1 up l?t;2 r?t)h=u;sq!l^l=;2 r^l=;up l?g^l=;l*r?g^l=)h,q!t
   BISECTING ln;h u*dt!m;u*dt!l^l=;3 r^l=)lr z;h,q!up l qu;3 l*l qu;l*r qu;up r qu;1 z!up l qu;3 l*l qu;l*r qu;up r qu)
   up l?t;up r?t;l*l?t;h me,q;b me,q;h me,,q;b me,,q;l*r?t;b SUN!RAYS;qc;um;xx;COMET;b,a;h,a;lj;THUNDERSTORM;SUN;vv
   NODE;zz NODE;CONJUNCTION;OPPOSITION;b]e;h]e;bg=x;2!cw;w X)os;um!ri DROPS;HOT BEVERAGE;h qv pv;b qv pv;SHAMROCK;r<r*
   vf^r=u;b l p*id;b r p*id;h l p*id;1 UP p*id;r p*id;k p*id)SKULL%kj;CAUTION i;RADIOACTIVE i;BIOHAZARD i;CADUCEUS;
   ANKH;ORTHODOX co;CHI jr;c*OF LORRAINE;2 JERUSALEM)sa%xc;FARSI y;ADI SHAKTI;hm%SICKLE;PEACE y;YIN ya;TRIGRAM fj
   HEAVEN;2 LAKE;gf;THUNDER;wn;wt;mn;ej)WHEEL OF DHARMA;h fw j;h,m j;b,m j;h SUN!RAYS;fz qa mo;LAST qa mo;MERCURY;fp i;
   ej;mj i;JUPITER;SATURN;URANUS;NEPTUNE;PLUTO;ARIES;TAURUS;GEMINI;CANCER;LEO;VIRGO;LIBRA;SCORPIUS;SAGITTARIUS;
   CAPRICORN;AQUARIUS;PISCES;h ch ki;2 qn;rk;bi;kn;pf)b ch ki;2 qn;rk;bi;kn;pf)b SPADE ws;h^r ws;h?m ws;b CLUB ws;h
   SPADE ws;b^r ws;b?m ws;h CLUB ws;HOT SPRINGS;qa vn;eg vn;BEAMED eg ns;1 SIXTEENTH ns)MUSIC FLAT i;1 NATURAL i;SHARP
   i)w<SYRIAC co;ea SYRIAC co;uv ry y;ry y fj TYPE-1 pt;3 TYPE-2 pt;TYPE-3 pt;TYPE-4 pt;TYPE-5 pt;TYPE-6 pt;TYPE-7 pt;
   GENERIC MATERIALS)b uv ry y;RECYCLED rp y;PARTIALLY-RECYCLED rp y;PERMANENT rp i;wl y;DIE FACE-1;1 FACE-2;FACE-3;
   FACE-4;FACE-5;FACE-6)h z!m r;3]w?f)b z!h m r;3]w^?f)MONOGRAM fj ya;2 YIN)DIGRAM fj GREATER ya;2 LESSER YIN;3 ya;2
   GREATER YIN)h fg;b fg;hm%PICK;ANCHOR;cy SWORDS;STAFF OF AESCULAPIUS;SCALES;ALEMBIC;fk;GEAR;STAFF OF HERMES;ATOM y;
   FLEUR-DE-LIS;ou^,a;th LINES CONVERGING r;3 l)WARNING i;gh VOLTAGE i;DOUBLED fp i;1 mj i)INTERLOCKED fp%mj i;mj%fp i;
   1!st i;3%mj%fp i)t mj!st i;hz mj!st i;m<h z;1= z;s^ z)MARRIAGE y;DIVORCE y;UNMARRIED PARTNERSHIP y;COFFIN;FUNERAL
   URN;NEUTER;CERES;PALLAS;JUNO;VESTA;CHIRON;b m*LILITH;SEXTILE;SEMISEXTILE;QUINCUNX;SESQUIQUADRATE;SOCCER=h;BASEBALL;
   sr ky;h DRAUGHTS jm;2 ki)b DRAUGHTS jm;2 ki)xx wi SNOW;SUN BEHIND qc;ri;b xx;THUNDER qc%ri;tu^ qv pv;tu= qv pv;h?m
   IN,q;cs LANES;DISABLED CAR;OPHIUCHUS;PICK;CAR SLIDING;HELMET!h co;cc cs LANES;CHAINS;NO ENTRY;ALTERNATE ONE-WAY l
   WAY]q;b TWO-WAY l WAY]q;h TWO-WAY l WAY]q;b l LANE MERGE;h l LANE MERGE;DRIVE SLOW i;v^?p?t;l cl ENTRY;sr os;fa?g IN
   ^ z IN=,q;b TRUCK;RESTRICTED l ENTRY-1;2 ENTRY-2)ASTRONOMICAL y fj URANUS;v z!st%tw?f o;pj;RIGHT-HANDED iu pj;
   LEFT-HANDED iu pj;ji pj;b c*ON SHIELD;SHINTO SHRINE;CHURCH;yn;HISTORIC SITE;GEAR wi HUB;1!HANDLES)MAP y fj
   LIGHTHOUSE;mn;um ON GROUND;FOUNTAIN;fg IN HOLE;FERRY;SAILBOAT;sq f*yc;SKIER;ICE SKATE;pn!bh;TENT;ja BANK y;hq
   GRAVEYARD y;FUEL PUMP;CUP ON=,q;h fg!hz gm= STRIPE;b y*jq;up BLADE jq;b jq;l*BLADE jq;h jq;h v cw mr;t<LOCATION i;
   TAPE DRIVE;ai;en;ra FIST;ra^n;VICTORY^n;WRITING^n;l*r mp;mp;up r mp;h NIB;b NIB;cw mr;v cw mr;mu X;v mu X;bg X;v=g
   X;ou gr co;v gr co;op c<co;v op c<co;la co;sh^ la co;ou la co;MALTESE co;sa OF DAVID;f*ts&s;f*bp&s;v f*bp&s;f*
   CLUB-SPOKED&s;b f*pi,a;h f*pi,a;SPARKLES;STRESS ou^,a;cc^,a;op c<b,a;b c<h,a;ou=,a;v ou=,a;pw,a;sh^,a;v&s;op ce&s;ei
   ,k&s;1 pi=,a;2 pw,a)si pi=,a;ei pi rq=,a;v ei pi rq=,a;tl pi=,a;ju pi&s;ts&s;op c<ts&s;v]s&s;si PETALLED=%h fh;b fh;
   h fh;ei PETALLED ou= fh;cc op c<ei pi,a;v]s pw&s;xk;TIGHT TRIFOLIATE xk;v CHEVRON xk;SPARKLE;v SPARKLE;bp&s;ei]s vw
   &s;v ei]s vw&s;c*mr;sh^ z;ne,r c*mr;l*r zh^,q;up r zh^,q;l*r,h^,q;up r,h^,q;b q<mr or;h q<mr or;h ex mr or;b?m mi^
   X;v ex mr y;u] x;m<t x;v] x;1,n]u cm q*mr or;sn cm q*mr or;d]u cm q*mr or;d cm q*mr or;lw,n cm q*mr or;2? cm q*mr or
   )uc jy vg i or;v ex mr or;v^r ex mr or;v=^r;r*v=^r=u;vf^r;r*vf^r=u;m<l pa or;1 r pa or;fq l pa or;fq r pa or;lt&g=r
   or;rg&g=r or)v lt&g q*mr or;1 rg&g q*mr or;lt&g=r or;rg&g=r or)u l]*sz=r or;u r]*sz=r or;m<l cu=r or;m<r cu=r or;
   DINGBAT n<cc?b on;4]w;th;fo;fi;si;se;ei;nn;3 nm gt;1 cc,s?b on;4]w;th;fo;fi;si;se;ei;nn;3 nm gt;1 n<cc,s?b on;5]w;
   th;fo;fi;si;se;ei;nn;4 nm gt)v gw g&;1 pl i;mi i;dv i;s*ea&;g&;an ea&)DRAFTING pq g&;v ROUND-TIPPED g&;tn g&;v]n g&;
   dj]n g&;v?j]n g&;b g&;THREE-D]x g&r;1 BOTTOM-LIGHTED g&r)b g&r;v= uc?o%g&;3 uw%g&)SQUAT= g&;v CONCAVE-POINTED= g&;rd
   ^ g&;lk^ g&;bw,h^ g&;ft,h^ g&;v l*rh^ g&;v up rh^ g&;nt l*rh^ g&;cu lp;nt up rh^ g&;cc v^ g&;WHITE-FEATHERED g&;yz,*
   ea&;1 g&;an ea&)v yz,*ea&;2 g&;an ea&)TEARDROP-BARBED g&;v TEARDROP-SHANKED g&;ew g&;v ew g&;OPEN-OUTLINED g&;d cu
   lp;th DIMENSIONAL&g;h?t cg,^?t;pp;op,b;op,u;l S-SHAPED BAG nd;r S-SHAPED BAG nd;OR!m is;rv,d vx,b;su vx,d;t x!hz,t;
   mh rs?g;lb?v;mh fa?g;sr lc n;2 OR)h?m!cq m;n!m;el OF od uw;l*r cn!m;up l cn!m;l OUTER JOIN;r OUTER JOIN;fu OUTER
   JOIN;lr UP]c;lr k]c;l%r?]t;3]c)l ml;lb r]c;lb l]c;UP]c!z o;lz wd BY^z RULE;h CONCAVE-SIDED?m;3!f qt;w g qt;1,q!f qt;
   3 g qt)mh l^,q=r;1 r^,q=r;l&g=r;r&g=r;l?&g=r;r?&g=r;l^]*sz=r;r^]*sz=r;l fq pa;r fq pa)uw qd&;d*qd&;at GAPPED z&;ck
   GAPPED z&;r&!cc pl;lb f&;1 g&;l r&;f?&;g?&;l r?&;f& fr x;g& fr x;f?& fr x;g?& fr x;g qg&)BRAILLE PATTERN BLANK;2
   DOTS-1$2$12$3$13$23$123$4$14$24$124$34$134$234$1234$5$15$25$125$35$135$235$1235$45$145$245$1245$345$1345$2345$12345
   $6$16$26$126$36$136$236$1236$46$146$246$1246$346$1346$2346$12346$56$156$256$1256$356$1356$2356$12356$456$1456$2456
   $12456$3456$13456$23456$123456$7$17$27$127$37$137$237$1237$47$147$247$1247$347$1347$2347$12347$57$157$257$1257$357
   $1357$2357$12357$457$1457$2457$12457$3457$13457$23457$123457$67$167$267$1267$367$1367$2367$12367$467$1467$2467$12467
   $3467$13467$23467$123467$567$1567$2567$12567$3567$13567$23567$123567$4567$14567$24567$124567$34567$134567$234567
   $1234567$8$18$28$128$38$138$238$1238$48$148$248$1248$348$1348$2348$12348$58$158$258$1258$358$1358$2358$12358$458
   $1458$2458$12458$3458$13458$23458$123458$68$168$268$1268$368$1368$2368$12368$468$1468$2468$12468$3468$13468$23468
   $123468$568$1568$2568$12568$3568$13568$23568$123568$4568$14568$24568$124568$34568$134568$234568$1234568$78$178$278
   $1278$378$1378$2378$12378$478$1478$2478$12478$3478$13478$23478$123478$578$1578$2578$12578$3578$13578$23578$123578
   $4578$14578$24578$124578$34578$134578$234578$1234578$678$1678$2678$12678$3678$13678$23678$123678$4678$14678$24678
   $124678$34678$134678$234678$1234678$5678$15678$25678$125678$35678$135678$235678$1235678$45678$145678$245678$1245678
   $345678$1345678$2345678$12345678)g]d&!t,t;4?],t)f?&!t,t;g?&!t,t;l r?&!t,t;g]d& fr x;f?& fr x;g?& fr x;do&!hz,t;uw&!
   hz,t;uw]p&;d*tp&;f??h&;g??h&;f]p?h&;g]p?h&;g]d]p?h&;g&!dd jy;uw&[ x;do&[ x;g&!ta!t,t;5?],t;1]d&!ta;5!t,t;w?],t)f&d;g
   &d;f?&d;g?&d;f&[=?m;g&[=?m;f& fr x[=?m;g& fr x[=?m;an we%s*ea&;1 ea%s*we&;we&!ho;ea&!ho)s*ea&!ho;s*we&!ho;an we&%an
   ea&;an ea&%s*ea&;s*ea&%s*we&;s*we&%an we&;rs?g cs fa?g;fa?g cs rs?g;s*ea& cs&n ea&;an ea& cs,*ea&;fa?g cs&n ea&;rs?g
   cs,*ea&;an ea& cs&n we&;an we& cs&n ea&;wa& p*DIRECTLY r;a p*g vt xy uw;5?o;2?*vt xy f;5 g)RIGHT-SIDE&q ck&;
   LEFT-SIDE&q&t&;tk&q&t&;bo&q&t&;tk&q ck&!mi;2&t&!pl)l*r xa ck&;l*l xa&t&;at cl z&;ck cl z&;g& *sx f&;f& *sx g&;sx g&
   *f&;g&!pl p;f&!pl p;g&]j X;l r&]j, z;uw]d& fr, z;l=a UP r=a k^a;2 k r=a UP^a)UP=a r k=a l^a;2 l k=a r^a)l=a UP r=a
   UP^a;UP=a r k=a r^a;l=a k r=a k^a;UP=a l k=a l^a;f^a!ba UP[ x;g^a!ba UP[ x;uw^a!ba r[ x;d*ha!ba r[ x;f^a!ba k[ x;g^a
   !ba k[ x;uw^a!ba l[ x;d*ha!ba l[ x;f^a!ba UP fr x;g^a!ba UP fr x;uw^a!ba r fr x;d*ha!ba r fr x;f^a!ba k fr x;g^a!ba
   k fr x;uw^a!ba l fr x;d*ha!ba l fr x;f^a!ba UP *f^a!ba k;uw^a!ba l=s uw^a!ba r;g^a!ba UP *g^a!ba k;d*ha!ba l=s?*ha!
   ba r;f^a!ba UP *g^a!ba UP;4 k *g^a!ba k)g^a!ba UP *f^a!ba UP;4 k *f^a!ba k)f^a!ba UP *lb?h;4 k p lb?h)g^a!ba UP *lb
   ?h;4 k p lb?h)uw^a!ba l=s?*ha!ba r;d*ha!ba l=s uw^a!ba r;r?&!ru HEAD;eu i *g&;ti ot *g&;f& *ti ot;g& *ti ot;3&l q[)
   ls *f&;f&]j ls;g<*g&;sb *g&;f&]j,b;su *f&;l fs]a;r fs]a;UP fs]a;k fs]a;tp] x nd;Z nb SPOT;2 TYPE cv)l^ cu=r;r^ cu=r;
   l^ pa;r^ pa;Z nb l im=r;2 r im=r;l BINDING=r;r BINDING=r)l,q=r!un;r,q=r!un;l,q=r!qt IN]k cn;r,q=r!qt IN=*cn;l,q=r!qt
   IN=*cn;r,q=r!qt IN]k cn;l&g=r!m;r&g=r!m;l&q ls=r;r&q g<br;d l&q g<br;d r&q ls=r;l=]*sz=r;r=]*sz=r;dd^f;t zi ln;mb&g
   od l;r&g VARIANT!sq;mb r&g!m;ag!S is;ac&g;vl&g od l;3 UP)tu&g;re&g;ag!un;re&g!un;OBLIQUE&g od UP;3 k)mb&g!op ARM
   ENDING IN& p*UP%r;9 UP%l;k%r;k%l;r%UP;l%UP;r%k;l%k)r<em SET;em SET!oe;3, z o;r& o;l& o)z!hz x;cc] x;1 pb;rv,d;pp)z
   wd BY^z x%tk^l wd BY] x;z!SUPERIMPOSED X;cc ANTICLOCKWISE-ROTATED?v i;UP&]j z;cc^=u;1=u;ls;ge)z!s z[ jt r;z!tw^z
   STROKES[ jt r;sr rs?g vs;1 fa?g vs;as;s z;sq)tw j*qj;dt!m o;2 un)S IN?t;dt!qk AT=o;r?t *l?t;l?t=s] x;t x=s r?t;yl!l
   ^l=;2 r^l=)b yl;tm!l^l=;2 r^l=)h^g;b^g;l wg^f;r wg^f;l? wg^f;r? wg^f;INCOMPLETE if;TIE oa if;if NEGATED!t x;
   DOUBLE-ENDED ml;sq!CONTOURED OUTLINE;INCREASES AS;SHUFFLE pd;eu i%sl pb;5!ti o)ia[%sl pb;GLEICH STARK;THERMODYNAMIC;
   dp?t!l^l=;3 r^l=)b?m!k&;b lz;h z!k&;b z!k&;ERROR-BARRED^,q;1=,q;h?m;b?m;h z;b z)RULE-DELAYED;rv,d ot;sd!oe;rv,d!hz
   ,t;BIG,d;BIG rv,d;d pl;tp pl;lt uc&g=r;rg uc&g=r;TINY;MINY;ny cc m ot;2 pl ot;tm ot;1 ui ot!m;4 pl;1,q in ot;2 ui ot
   )tw lc%ot;2 OR ot)ny]m ot;MODULO]w SUM;jl!it;qd it ot;FINITE PART it;it!d,t;it AVERAGE!vs;CIRCULATION FUNCTION;at
   iq;ln iq!RECTANGULAR PATH ua^p;2!xa PATH ua^p;n*INCLUDING jt^p)it ua A pq ot;QUATERNION it ot;it!f&!ho;2]m i;in;ui;
   oe;un)JOIN;lr l?t ot;Z nb SCHEMA xf;3 PIPING;PROJECTION)pl i!s z o;3 ci&<o;ti o;m p;ti p;xj]w;b?t)mi i!cm o;3 m p;fa
   ?f;rs?f)pl i IN l^l z;3 r^l z)VECTOR OR c*pd;mu i!m o;3 un)jk pd!b*cl;SMASH pd;mu i IN l^l z;3 r^l z)cc mu i!ci&e;mu
   i IN? z;cc?v i;pl i IN?t;mi i IN?t;mu i IN?t;INTERIOR pd;RIGHTHAND INTERIOR pd;Z nb RELATIONAL xf;AMALGAMATION OR
   vk;in!m;ui!mi i;2 oe)in!oe;2 lc n)ui!lc OR;ui *in;in *ui;ui *x *in;in *x *ui;ui=s%jo!ui;in=s%jo!in;cl ui!qk;cl in!
   qk;d,q in;2 ui)cl ui!qk%SMASH pd;lc n!m o;lc OR!m o;d lc n;2 OR)tw INTERSECTING lc n;3 OR)SLOPING lr OR;2 n)lc OR of
   lc n;1 n!gm jy;OR!gm jy;n!hz?h;OR!hz?h;n!d oe;3 un;d un)s VEE!un;lc OR!d oe;4 un)Z nb DOMAIN&u;2 RANGE&u)eu i!m p;ia
   !m o;tp^z x!d],t;4]p],t)ti ot!m o;3 rs?f)zs mi zs;CONGRUENT!m o;eu!as;al q[!ci&e;ax q OR q[;eu i *pl i;pl i *eu i;eu
   i *ti ot;d cv q;tw zm eu SIGNS;th zm eu SIGNS;eu i!tw?f o%tw?f p;ev!f*df o;ls!z is;ge!z is;ls!q<mr o;ge!q<mr o;ls OR
   ,l q[;g<OR,l q[;ls OR,l q[!m is;g<OR,l q[!m is;ls OR,l q[!m o;g<OR,l q[!m o;ls OR,l q[!m *r;g<OR,l q[!m *l;ls OR&a;
   g<OR&a;ls%j<n*q[;ge%j<n*q[;ls%no&a;ge%no&a;ls *dc q *ge;g<*dc q *ls;ls *zs OR q;g<*zs OR q;ls *zs *ge;g<*zs *ls;ls *
   g<*dc q;g<*ls *dc q;ls *sl q *g<*sl q;g<*sl q *ls *sl q;sl q[ OR ls;4 ge;ls!m is;ge!m is)dc q[ OR ls;4 ge;1,l q[ OR
   ls;5 ge)zs OR ls;2 ge;1 *ls *eu i;*g<*eu i)d NESTED ls;2 ge;ls!un)g<of ls;g<bs ls;ls cl BY qw;g<cl BY qw;ls cl BY qw
   *sl q;g<cl BY qw *sl q;SMALLER THAN;LARGER THAN;SMALLER THAN OR q[;LARGER THAN OR q[;eu i!BUMPY o;p<*j<eu i;sc *j<eu
   i;p<*j<n*q[;sc *j<n*q[;p<*eu i;sc *eu i;p<*n*q[;sc *n*q[;p<o&l q[;sc o&l q[;p<*no&l q[;sc *no&l q[;d pe;d,c;sb!m;su!
   m;sb!pl i p;su!pl i p;sb!mu i p;su!mu i p;sb OF OR q[!m o;su OF OR q[!m o;sb OF *eu i;su OF *eu i;sb OF *ti ot;su OF
   *ti ot;sb OF o&l q[;su OF o&l q[;sb OF *n*q[;su OF *n*q[;sq l op=x ot;sq r op=x ot;cl,b;1,u;sb OR q[;su OR q[)sb *
   su;su *sb;sb *sb;su *su;1=s,b;2%j*BY?h!sb)el OF od?o;vq!TEE]k;TRANSVERSAL in;FORKING;NONFORKING;sx l]c;1 k]c;UP]c)pp
   !S;t x]p r]t;d] x l]t;t x? l]t;d] x? l]t;lb?h fr l mm OF?];sx k]c!oe;1 UP]c!un;3 *sx k]c)d k]c;d UP]c;d,t n*i;r<d,t
   n*i;dq n*yk!r<NEGATION vs;t ln!z o;4 p)k]c!z p;pb!hz,t;2]i ot)tp] x BINARY rb;3!hz,t;1 cv ot;NESTED ls;2 ge)dc,l ls
   OR q[;2 g<OR q[)tp,d BINARY rb;lr]p] x ot;d,d ot;h] x;ny^] x;an ea^&;an w<h&;s*ea^&;s*w<h&;l r^&;f=&;uw=&;d*b&;an ea
   =&;an w<b&;s*ea=&;s*w<b&;l r=&;UP k=&;g&!kt?o;4 uw)f&!kt?o;4 uw)sq!tk^l=;2=*hl=;up r?g^l=;l*l?g^l=)dm!l^l=;2 r^l=;tk
   ^l=;b*hl=)dd,q;b lr,q;h lr,q;b ve,,q;h ve,,q;b pg;h pg;h^x;b^x;hz=^x;b lr z;b m<dm;h m<dm;b m<lz;h m<lz;b,?m;b, lz;h
   , lz;b^z ed;h^z ed;b] ed;h] ed;l&!s z;th f&o;l&!cc pl;lb f qg&;f]d&!t,t;4?],t;2& fr x;tp?h&;1&!dd jy;3]a!t,t;5?],t;1
   ]d&!ta;5!t,t;w?],t)f&]j X;wa& p*DIRECTLY l;eu i *f&;rv]i ot *f&;f& *rv&l q[;g&]j ge;3,u)f qd&;g qd&;rv]i ot *g&;g& *
   rv&l q[;ti ot *f&;f& o&l q[;3 rv]i ot)g& *rv]i ot;d*tn zi&;sx,l&n&;sx=q,o&;h me,a;b,,a;h,,a;b rg pg;h rg pg;v lr z;1
   OVAL!OVAL is;z!z is;z;cc os)sl&n&!HOOKED HEAD;bq,o&!HOOKED]a;sl&n&!hz]a;bq,o&!hz]a;BENT& p*d*vt&n ea;sx BENT& p*d*vt
   &n ea;f]n&;uw]n&;g]n&;d*tn&;l r]n&;UP k]n&;an w<tn&;an ea]n&;s*ea]n&;s*w<tn&;f]n?j&;uw]n?j&;g]n?j&;d*tn?j&;ck]n op z
   &;at]n op z&;f]n&[ x;uw]n&[ x;g]n&[ x;d*tn&[ x|2b76:an w<tn&[ x;an ea]n&[ x;s*ea]n&[ x;s*w<tn&[ x;f]n&!d^z,t;uw]n&!d
   ^z,t;g]n&!d^z,t;d*tn&!d^z,t;hz TAB ky;t TAB ky;f]n& oa g]n&;uw]n& f OF?*tn&;g]n& oa f]n&;d*tn& f OF uw]n&;f]n pc&o;
   uw]n pc&o;g]n pc&o;d*tn pc&o;f= cc^&;uw= cc^&;g= cc^&;d*b cc^&;at]n r uh&;2=*uh&;l uh&;tk uh&)kr l;kr r;NEWLINE l;1
   r)f*cn&*CIRCLING&t;g=&|2b97:y fj TYPE A ELECTRONICS;THREE-D]x f eq&r;1 RIGHT-LIGHTED uw eq&r;tx g eq&r;LEFT-LIGHTED
   ?*eq&r)b f eq&r;1 uw eq&r;g eq&r;d*eq&r)d*tn&!lb kt f;6 g)uw]n&!lb kt f;6 g)f]n&!lb kt uw;g]n&!lb kt uw;f]n&!lb kt
   ?o;g]n&!lb kt?o;b uc?o%f&;4 g&;2 uw%f&;4 g&;2 f%uw&;g%uw&;f%do&;g%do&)rj& k l;2 k r;UP l;UP r;l UP;r UP;l k;r k)uw^&
   fr x!hz x;UP&r IN A rc=x;of^ qj;1^%b qj;b qj)bg=x!u X;cc X;cc=f X;b,q cq;b?m cq;tu= pg;hz= OCTAGON;b OCTAGON;b m<u*
   dt cq;2?p?t cq;lt?t cq;rg?t cq)NEPTUNE fm]w;tk^l= z;b*hl= z;u f*pi= CUSP;r*u f*pi= CUSP;h f*pi CUSP;r*h f*pi CUSP;sq
   vp ii;UNCERTAINTY i;GROUP mr;PLUTO fm]w;2]h;fo;fi)TRANSPLUTO;PROSERPINA;ASTRAEA;HYGIEA;PHOLUS;NESSUS;h m*SELENA;b?m
   ON co;TRUE u m*ARTA;CUPIDO;HADES;ZEUS;KRONOS;APOLLON;ADMETOS;VULCANUS;POSEIDON;l^l=,a;r^l=,a;sa!l^l=;2 r^l=)f]d&!dt
   &w;uw]d&!dt&w;g]d&!dt&w;d*td&!dt&w;ERIS fm on;2]w)SEDNA;RUSSIAN ASTROLOGICAL y VIGINTILE;3 NOVILE;QUINTILE;BINOVILE;
   SENTAGON;TREDECILE)eu i!if p;UNITED y;SEPARATED y;DOUBLED y;PASSED y;r<r&g;HELLSCHREIBER PAUSE y|3000:i<js;1 cm;fu,p
   )DITTO mr;ja INDUSTRIAL STANDARD y;i<ix mr;1 CLOSING mr;nm ze)l&g=r;r&g=r;l?&g=r;r?&g=r;l cn=r;r cn=r;l^ cn=r;r^ cn
   =r;l= ll=r;r= ll=r;np mr;GETA mr;l]*sz=r;r]*sz=r;l^ ll=r;r^ ll=r;l^]*sz=r;r^]*sz=r;l^,q=r;r^,q=r;wa?h;r<d pm q*mr;d
   pm q*mr;lw? pm q*mr;np mr j;HANGZHOU na on;2]w;th;fo;fi;si;se;ei;nn)i<LEVEL]f mr;1 rs]f mr;dz]f mr;ENTERING]f mr)
   HANGUL,n m]f mr;1? m]f mr)WAVY?h;t KANA REPEAT mr;3!v*ys mr;mr up^l;w v*ys mr up^l;mr l*hl)cc np mr;i<TELEGRAPH ln
   FEED,g y;HANGZHOU na gt;2]y;THIRTY)t i<ix mr;MASU mr;PART ALTERNATION mr;i<VARIATION ii;1^l fb js|fb00:la, lg FF;3
   FI;FL;FFI;FFL;lb S T;ST|fff9:INTERLINEAR ANNOTATION ANCHOR;2,g;TERMINATOR)OBJECT rx xi;rx xi|1f000:MAHJONG TILE ea
   wn;2,*wn;w<wn;an wn;cr?x;gn?x;h?x;on OF ct;tw OF ct;th OF ct;f*OF ct;fi OF ct;si OF ct;s<OF ct;ei OF ct;nn OF ct;on
   OF=m;tw OF=m;th OF=m;f*OF=m;fi OF=m;si OF=m;s<OF=m;ei OF=m;nn OF=m;on OF cf;tw OF cf;th OF cf;f*OF cf;fi OF cf;si OF
   cf;s<OF cf;ei OF cf;nn OF cf;PLUM;ORCHID;BAMBOO;CHRYSANTHEMUM;SPRING;SUMMER;AUTUMN;WINTER;gj;bb|1f030:DOMINO TILE^z
   =b;2 HORIZONTAL-00-00+0-01+0-02+0-03+0-04+0-05+0-06+1-00+1-01+1-02+1-03+1-04+1-05+1-06+2-00+2-01+2-02+2-03+2-04+2-05
   +2-06+3-00+3-01+3-02+3-03+3-04+3-05+3-06+4-00+4-01+4-02+4-03+4-04+4-05+4-06+5-00+5-01+5-02+5-03+5-04+5-05+5-06+6-00
   +6-01+6-02+6-03+6-04+6-05+6-06;t=b.0-00.0-01.0-02.0-03.0-04.0-05.0-06.1-00.1-01.1-02.1-03.1-04.1-05.1-06.2-00.2-01
   .2-02.2-03.2-04.2-05.2-06.3-00.3-01.3-02.3-03.3-04.3-05.3-06.4-00.4-01.4-02.4-03.4-04.4-05.4-06.5-00.5-01.5-02.5-03
   .5-04.5-05.5-06.6-00.6-01.6-02.6-03.6-04.6-05.6-06|1f0a0:py jc=b;2 ACE OF,w;tw OF,w;th OF,w;f*OF,w;fi OF,w;si OF,w;
   s<OF,w;ei OF,w;nn OF,w;gt OF,w;JACK OF,w;kn OF,w;qn OF,w;ki OF,w|1f0b1:py jc ACE OF^t;2]w OF^t;th OF^t;f*OF^t;fi OF
   ^t;si OF^t;s<OF^t;ei OF^t;nn OF^t;gt OF^t;JACK OF^t;kn OF^t;qn OF^t;ki OF^t;cr gj|1f0c1:py jc ACE OF?n;2]w OF?n;th
   OF?n;f*OF?n;fi OF?n;si OF?n;s<OF?n;ei OF?n;nn OF?n;gt OF?n;JACK OF?n;kn OF?n;qn OF?n;ki OF?n;b gj|1f0d1:py jc ACE OF
   cj;2]w OF cj;th OF cj;f*OF cj;fi OF cj;si OF cj;s<OF cj;ei OF cj;nn OF cj;gt OF cj;JACK OF cj;kn OF cj;qn OF cj;ki
   OF cj;h gj;FOOL;TRUMP-1;TRUMP-2;TRUMP-3;TRUMP-4;TRUMP-5;TRUMP-6;TRUMP-7;TRUMP-8;TRUMP-9;TRUMP-10;TRUMP-11;TRUMP-12;
   TRUMP-13;TRUMP-14;TRUMP-15;TRUMP-16;TRUMP-17;TRUMP-18;TRUMP-19;TRUMP-20;TRUMP-21|1f100:db z<fu,p;2 cm;1 on cm;tw cm;
   th cm;f*cm;fi cm;si cm;s<cm;ei cm;nn cm)DINGBAT cc,s?b ze;1 n<cc,s?b ze)cc ze!vs;1&t&;kd i!OVERLAID=c)ph la c <A;4
   B;C;D;E;F;G;H;I;J;K;L;M;N;O;P;Q;R;S;T;U;V;W;X;Y;Z)t*sz vy la c <S;cc ITALIC la c <C;5 R;1 CD;WZ)COPYLEFT y;sr la c <
   A;4 B;C;D;E;F;G;H;I;J;K;L;M;N;O;P;Q;R;S;T;U;V;W;X;Y;Z;1 HV;MV;SD;SS;PPV;WC)n<cc la c <A;5 B;C;D;E;F;G;H;I;J;K;L;M;N;
   O;P;Q;R;S;T;U;V;W;X;Y;Z)ra MC i;1 MD i;MR i)cc CC;1 C!OVERLAID=c;HUMAN lf)ne,r la c <A;5 B;C;D;E;F;G;H;I;J;K;L;M;N;
   O;P;Q;R;S;T;U;V;W;X;Y;Z)cy ne,r la c <P;ne,r IC;2 PA;SA;AB;WC)sq DJ;sr CL;1 COOL;FREE;ID;NEW;NG;OK;SOS;UP!ex mr;VS;
   th D;SECOND jv;tw K;f*K;ei K;fi pq on;s<pq on;TWENTY-TWO pq]w;SIXTY P;on^u]y P;la, <D;HC;HDR;HI-RES;LOSSLESS;SHV;
   UHD;VOD)MASK WORK y|1f1e6:REGIONAL ii y <A;4 B;C;D;E;F;G;H;I;J;K;L;M;N;O;P;Q;R;S;T;U;V;W;X;Y;Z)sq HIRAGANA HOKA;sr
   KATAKANA KOKO;2 SA|1f210:sr CJK uf IDEOGRAPH-624B;3 IDEOGRAPH-5B57_53CC;1 KATAKANA DE;CJK uf ih;3 IDEOGRAPH-591A
   _89E3_5929_4EA4_6620_7121_6599_524D_5F8C_518D_65B0_521D_7D42_751F_8CA9_58F0_5439_6F14_6295_6355_4E00;ij_904A_5DE6
   _4E2D_53F3_6307_8D70;ip_7981_7A7A_5408_6E80_6709_6708_7533_5272_55B6_914D|1f240:t*sz vy CJK uf IDEOGRAPH-672C;5 ij;
   ih_5B89_70B9;ip_76D7_52DD_6557|1f250:cc IDEOGRAPH ADVANTAGE;2 ACCEPT|1f260:ru y fj FU;3 LU;SHOU;XI;SHUANGXI;
   CAI|1f300:CYCLONE;FOGGY;cl um;NIGHT!STARS;SUNRISE oa MOUNTAINS;SUNRISE;vz AT DUSK;SUNSET oa ug;RAINBOW;bz AT NIGHT;
   wt wa;VOLCANO;MILKY WAY;ej GLOBE EUROPE-AFRICA;2 AMERICAS;ASIA-AUSTRALIA)GLOBE!MERIDIANS;NEW m*y;WAXING xc m*y;fz qa
   m*y;WAXING GIBBOUS m*y;fu m*y;WANING GIBBOUS m*y;LAST qa m*y;WANING xc m*y;xc mo;NEW mo!j;fz qa mo!j;LAST qa mo!j;fu
   mo!j;SUN!j;GLOWING,a;SHOOTING,a;zn;b DROPLET;h SUN;2!s qc;BEHIND qc;4!ri)qc!ri;2 SNOW;lj;TORNADO)FOG;wn BLOWING j;
   HOT DOG;TACO;BURRITO;CHESTNUT;SEEDLING;EVERGREEN xt;DECIDUOUS xt;PALM xt;CACTUS;HOT PEPPER;TULIP;CHERRY BLOSSOM;
   ROSE;HIBISCUS;SUNFLOWER;BLOSSOM;EAR OF MAIZE;2 RICE)HERB;f*ld CLOVER;MAPLE ld;FALLEN ld;ld FLUTTERING IN wn;
   MUSHROOM;TOMATO;AUBERGINE;GRAPES;MELON;WATERMELON;TANGERINE;LEMON;BANANA;PINEAPPLE;cr APPLE;gn APPLE;PEAR;PEACH;
   CHERRIES;STRAWBERRY;HAMBURGER;SLICE OF PIZZA;MEAT ON BONE;POULTRY le;RICE CRACKER;1=h)COOKED RICE;CURRY%RICE;
   STEAMING BOWL;SPAGHETTI;BREAD;FRENCH FRIES;ROASTED SWEET POTATO;DANGO;ODEN;SUSHI;FRIED SHRIMP;fs CAKE!SWIRL DESIGN;
   jx ICE CREAM;SHAVED ICE;ICE CREAM;DOUGHNUT;COOKIE;CHOCOLATE x;CANDY;LOLLIPOP;CUSTARD;HONEY POT;SHORTCAKE;BENTO=x;POT
   OF FOOD;COOKING;FORK%KNIFE;TEACUP wi HANDLE;SAKE zb%CUP;WINE gs;COCKTAIL gs;TROPICAL DRINK;BEER MUG;CLINKING BEER
   MUGS;kb zb;FORK%KNIFE!PLATE;zb!POPPING CORK;POPCORN;rj;WRAPPED PRESENT;BIRTHDAY CAKE;JACK-O-LANTERN;xl xt;FATHER xl;
   FIREWORKS;FIREWORK SPARKLER;xz;PARTY POPPER;CONFETTI=h;TANABATA xt;cy FLAGS;PINE kl;ja DOLLS;CARP STREAMER;wn CHIME;
   m*VIEWING CEREMONY;SCHOOL SATCHEL;GRADUATION CAP;hr!kt ON jt l;BOUQUET OF FLOWERS;my mg;REMINDER rj;ms ke!JACKS;
   STUDIO lm;LEVEL SLIDER;xw KNOBS;BEAMED vv ms ns;1 zz ms ns)FILM FRAMES;ADMISSION TICKETS;CAROUSEL^s;FERRIS WHEEL;
   ROLLER COASTER;FISHING^p%fs;lm;MOVIE ql;CINEMA;HEADPHONE;ARTIST PALETTE;tk HAT;CIRCUS TENT;TICKET;CLAPPER xb;
   PERFORMING ARTS;VIDEO GAME;DIRECT HIT;SLOT km;BILLIARDS;GAME DIE;BOWLING;fk py CARDS;ms vn;MULTIPLE ms ns;SAXOPHONE;
   GUITAR;ms ke;TRUMPET;VIOLIN;ms SCORE;ur SHIRT!SASH;TENNIS RACQUET%bh;SKI%SKI BOOT;BASKETBALL%HOOP;CHEQUERED fg;
   SNOWBOARDER;RUNNER;SURFER;SPORTS mg;TROPHY;hs RACING;AMERICAN FOOTBALL;RUGBY FOOTBALL;SWIMMER;WEIGHT LIFTER;GOLFER;
   RACING MOTORCYCLE;1 CAR)CRICKET BAT%bh;VOLLEYBALL;FIELD HOCKEY qx%bh;ICE HOCKEY qx%PUCK;TABLE TENNIS PADDLE%bh;SNOW
   CAPPED mn;CAMPING;BEACH!um;bn xd;kh ug;vz;DERELICT kh=n;CLASSICAL=n;DESERT;1 ISLAND)NATIONAL PARK;STADIUM;kh=n;kh!
   GARDEN;g*bn;ja POST go;EUROPEAN POST go;HOSPITAL;BANK;AUTOMATED TELLER km;HOTEL;LOVE HOTEL;CONVENIENCE STORE;SCHOOL;
   DEPARTMENT STORE;FACTORY;IZAKAYA LANTERN;ja yn;EUROPEAN yn;h PENNANT;b PENNANT;WAVING^ fg;1= fg)ROSETTE;b ROSETTE;
   LABEL;BADMINTON RACQUET%SHUTTLECOCK;BOW%a;AMPHORA;EMOJI md FITZPATRICK TYPE-1-2;3 TYPE-3;TYPE-4;TYPE-5;TYPE-6)RAT;
   mc;OX;wt BUFFALO;COW;TIGER;LEOPARD;RABBIT;gc;dx;CROCODILE;WHALE;SNAIL;SNAKE;hs;RAM;GOAT;SHEEP;mk;ROOSTER;CHICKEN;
   DOG;PIG;BOAR;ef;OCTOPUS;SPIRAL,z;BUG;ANT;HONEYBEE;LADY BEETLE;fs;TROPICAL fs;BLOWFISH;TURTLE;HATCHING CHICK;kb
   CHICK;FRONT-FACING kb CHICK;BIRD;PENGUIN;KOALA;POODLE;DROMEDARY CAMEL;BACTRIAN CAMEL;DOLPHIN;mc j;COW j;TIGER j;
   RABBIT j;gc j;dx j;SPOUTING WHALE;hs j;mk j;DOG j;PIG j;FROG j;HAMSTER j;WOLF j;BEAR j;PANDA j;PIG NOSE;PAW PRINTS;
   CHIPMUNK;ey;EYE;EAR;NOSE;mt;TONGUE;h UP p*bk id;1 k p*bk id;l p*bk id;r p*bk id)FISTED^n i;WAVING^n i;OK^n i;THUMBS
   UP i;1 k i)CLAPPING^d i;op^d i;CROWN;wm HAT;EYEGLASSES;NECKTIE;T-SHIRT;JEANS;DRESS;KIMONO;BIKINI;wm CLOTHES;PURSE;
   HANDBAG;POUCH;MANS,y;ATHLETIC,y;HIGH-HEELED,y;wm SANDAL;wm BOOTS;FOOTPRINTS;BUST IN jz;BUSTS IN jz;BOY;GIRL;jm;wo;
   FAMILY;jm%w*hi^d;tw MEN^i^d;tw WOMEN^i^d;qp OFFICER;wo!BUNNY EARS;BRIDE!VEIL;pn!BLOND vh;jm!GUA PI MAO;2 TURBAN)
   OLDER jm;1 wo)kb;xd WORKER;PRINCESS;ja OGRE;ja GOBLIN;GHOST;kb ANGEL;EXTRATERRESTRIAL ALIEN;ALIEN MONSTER;IMP;SKULL;
   ib DESK pn;GUARDSMAN;DANCER;LIPSTICK;NAIL POLISH;j MASSAGE;HAIRCUT;BARBER^p;SYRINGE;PILL;KISS mr;LOVE e;rn;GEM
   STONE;KISS;BOUQUET;COUPLE!hr;WEDDING;BEATING^r;yi^r;tw^t;SPARKLING^r;GROWING^r;hr!a;ub^r;gn^r;yw^r;yq^r;hr!rj;rz^t;
   hr kl;dm SHAPE!A m is;ec u BULB;ANGER y;BOMB;xn y;COLLISION y;SPLASHING qy y;DROPLET;dh y;PILE OF POO;FLEXED BICEPS;
   DIZZY y;jw xz;yd xz;h fk;hu POINTS y;MONEY BAG;CURRENCY EXCHANGE;v kd i;CREDIT jc;BANKNOTE!YEN i;2 kd i;EURO i;POUND
   i)MONEY!WINGS;qz!uw TREND%YEN i;SEAT;PERSONAL xo;BRIEFCASE;MINIDISC;fv gd;OPTICAL DISC;DVD;kf fl;op kf fl;px!cx;px
   FACING UP;xp;TEAR-OFF xp;jc id;qz!uw TREND;2?*TREND)x qz;CLIPBOARD;wp;ROUND wp;PAPERCLIP;STRAIGHT RULER;tr RULER;
   BOOKMARK TABS;LEDGER;NOTEBOOK;1!DECORATIVE COVER)cl vb;op vb;gn vb;ub vb;ob vb;BOOKS;NAME BADGE;SCROLL;MEMO;t<rr;
   PAGER;FAX km;uj ANTENNA;PUBLIC ADDRESS LOUDSPEAKER;CHEERING MEGAPHONE;OUTBOX TRAY;INBOX TRAY;PACKAGE;E-MAIL y;
   INCOMING en;en!do& o;cl MAILBOX!LOWERED fg;3 ra fg)op MAILBOX!ra fg;3 LOWERED fg)POSTBOX;np^b;ng;mf PHONE;2!g& AT l)
   VIBRATION MODE;mf PHONE OFF;NO mf PHONES;ANTENNA!BARS;ql;ql!FLASH;VIDEO ql;TELEVISION;RADIO;VIDEOCASSETTE;FILM
   PROJECTOR;PORTABLE STEREO;PRAYER BEADS;TWISTED g&o;ck g%f op z&o;7!cc on ov;1?o%uw op z&o;0&t?o%uw op z&o;lw ku y;gh
   ku y;ye!xe,t;ye;1!on ys wa;w]h ys WAVES)BATTERY;ec PLUG;lt vm gs;rg vm gs;LOCK!INK PEN;cl LOCK!ky;ky;LOCK;op LOCK;
   jb;jb!xe,t;BOOKMARK;LINK y;RADIO=j;bb!f& o;he!f& o;ON!ex mr!l r& o;SOON!g& o;tk!uw& o;NO on UNDER eb y;KEYCAP gt;
   INPUT y fj la c LETTERS(3 NUMBERS;SYMBOLS;la LETTERS)gf;ec[RCH;WRENCH;hm;NUT%BOLT;HOCHO;PISTOL;MICROSCOPE;TELESCOPE;
   CRYSTAL=h;si pi,a!gm m;ja y fj BEGINNER;yf EMBLEM;b,q=j;h,q=j;lr cr z;1 ub z;ob?m;ub?m)s ob?m;s ub?m;u*cr?t;dp cr?t;
   u*s cr?t;dp, cr?t;l*r,h^ z;up r,h^ z;cc c*yr;c*yr!HALF-CIRCLE p;c*yr;nt l jj!th?f;nt r jj!th?f;y fj MARKS CHAPTER;h
   la co;v la co;CELTIC co;OM y;DOVE OF PEACE;KAABA;MOSQUE;SYNAGOGUE;MENORAH!nn BRANCHES;BOWL OF HYGIEIA;qq j on oc;2]w
   oc;th oc;f*oc;fi oc;si oc;s<oc;ei oc;nn oc;gt oc;e<oc;tl oc;ONE-THIRTY;TWO-THIRTY;THREE-THIRTY;FOUR-THIRTY;
   FIVE-THIRTY;SIX-THIRTY;SEVEN-THIRTY;EIGHT-THIRTY;NINE-THIRTY;TEN-THIRTY;ELEVEN-THIRTY;TWELVE-THIRTY)r ye;2!on ys wa;
   w]h ys WAVES)BULLHORN;1!ys WAVES)RINGING jb;vb;CANDLE;MANTELPIECE qq;b SKULL%kj;NO PIRACY;HOLE;jm IN BUSINESS ws
   LEVITATING;SLEUTH OR SPY;DARK kv;SPIDER;1 WEB)JOYSTICK;jm DANCING;l^n]<rr;t<rr!px;r^n]<rr;h uq]e;b uq]e;t<ON]k OF
   MODEM;CLAMSHELL mf PHONE;bb OF en;STAMPED en;en!lj;wf en;PEN oa STAMPED en;LINKED PAPERCLIPS;b wp;l*l mp;2 BALLPOINT
   PEN;FOUNTAIN PEN;PAINTBRUSH;CRAYON)l WRITING^n;tu OK^n i;ra^n!f<SPLAYED;r<ra^n!f<SPLAYED;1 THUMBS UP i;2 k i;1
   VICTORY^n;hn!gm zf EXTENDED)ra^n!PART yb gm%rn fe;h k p*l^n id;SIDEWAYS^ l p*id;1^ r p*id;b l p*id;b r p*id)b l p*bk
   id;b r p*bk id;SIDEWAYS^ UP p*id;1^ k p*id;b UP p*id;b k p*id)b UP p*bk id;b k p*bk id;b^r;DESKTOP xo;ke%mc;th
   NETWORKED COMPUTERS;PRINTER;POCKET CALCULATOR;b qh,z fv gd;h qh,z fv gd;jx,z fv gd;TAPE CARTRIDGE;WIRED ke;on=j mc;
   tw=j mc;th=j mc;TRACKBALL;OLD PERSONAL xo;qh gd;jv;PRINTER ICON;FAX ICON;OPTICAL DISC ICON;ud!TEXT;3%zp;2 zp)FRAME!
   zp;2 TILES;AN X)b fl;fl;op fl;jc id DIVIDERS;jc kf=x;kf CABINET;em vn;2 px;PAD)vn;1 px;PAD)em ud;1 px;PAGES)ud;px;
   PAGES;WASTEBASKET;SPIRAL vn PAD;1 xp PAD)DESKTOP WINDOW;MINIMIZE;MAXIMIZE;OVERLAP;ck r%l jj&o;x<X;INCREASE FONT SIZE
   y;DECREASE FONT SIZE y;COMPRESSION;OLD ky;ROLLED-UP ng;px!cc TEXT;STOCK qz;dw KNIFE;LIPS;SPEAKING HEAD IN jz;th RAYS
   o;2 p;l;r)l jw=d;r jw=d;tw jw yg;th jw yg;l yd=d;r yd=d;l ANGER=d;r ANGER=d;MOOD=d;lj MOOD=d;lj MOOD;bg=x!bg;1,j X;
   bx!sj X;bf,j X;bx!bf,j X)u cw mr;bg=x!bf cw;WORLD MAP;MOUNT FUJI;TOKYO[WER;STATUE OF LIBERTY;jz OF JAPAN;MOYAI;gi j;
   2!sm ey)j!TEARS OF JOY;sm j!op mt;5%sm ey;6 COLD qy;za ey;3 HALO;HORNS)WINKING j;sm j!sm ey;j SAVOURING DELICIOUS
   FOOD;RELIEVED j;sm j!wh ey;3 kv)SMIRKING j;nu j;EXPRESSIONLESS j;UNAMUSED j;j!COLD qy;PENSIVE j;CONFUSED j;
   CONFOUNDED j;kg j;j THROWING A KISS;kg j!sm ey;3 cl ey)j!STUCK-OUT[NGUE;4%WINKING EYE;n za ey)zk j;WORRIED j;ANGRY
   j;yh j;yu j;PERSEVERING j;j!LOOK OF TRIUMPH;zk&b RELIEVED j;fw j!op mt;ANGUISHED j;FEARFUL j;WEARY j;SLEEPY j;TIRED
   j;GRIMACING j;LOUDLY yu j;j!op mt;HUSHED j;j!op mt%COLD qy;j SCREAMING IN FEAR;ASTONISHED j;FLUSHED j;xn j;DIZZY j;j
   wi mt;j!MEDICAL MASK;gi gc j!sm ey;gc j!TEARS OF JOY;sm gc j!op mt;4 wh ey)gc j!WRY SMILE;kg gc j!cl ey;yh gc j;yu
   gc j;WEARY gc j;qi fw j;qi,m j;UPSIDE-DOWN j;j!ROLLING ey;2 NO GOOD GESTURE;OK GESTURE)pn BOWING DEEPLY;SEE-NO-EVIL
   mk;HEAR-NO-EVIL mk;SPEAK-NO-EVIL mk;HAPPY pn RAISING on^n;pn RAISING BOTH^d IN CELEBRATION;1 fw;w yh j;w FOLDED^d;0
   &n w<p*ld;s*w<p*ld;an ea p*ld;s*ea p*ld;tu&n w<p*ld;1,*w<p*ld;an ea p*ld;s*ea p*ld;0&n w<p*vi ld;s*w<p*vi ld;an ea
   p*vi ld;s*ea p*vi ld;v&n w<p*vi ld;1,*w<p*vi ld;an ea p*vi ld;s*ea p*vi ld;0&n w<p*gb;s*w<p*gb;an ea p*gb;s*ea p*gb;
   v&n w<p*gb;1,*w<p*gb;an ea p*gb;s*ea p*gb)HOLLOW QUILT,q or;4 IN=,q)SOLID QUILT,q or;4 IN=,q)f rf;uw rf;g rf;d*rf;sj
   lg ET or;v,j lg ET or;lg op ET or;v lg op ET or;v&j or;SWASH&j or;ss v?]u cm q*mr or;2? cm q*mr or;lw? cm q*mr or)v
   ir or;ss ir or;v,s ir or;v<v,d;2 rv,d)zc xb;rv zc xb;rf;HELICOPTER;STEAM lv;rw CAR;HIGH-SPEED TRAIN;2!bu NOSE)TRAIN;
   METRO;u RAIL;STATION;TRAM;1 CAR)BUS;o*BUS;TROLLEYBUS;BUS,p;MINIBUS;AMBULANCE;gf ENGINE;qp CAR;o*qp CAR;TAXI;o*TAXI;
   kw;o*kw;RECREATIONAL VEHICLE;DELIVERY TRUCK;ARTICULATED LORRY;TRACTOR;MONORAIL;mn rw;SUSPENSION rw;mn CABLEWAY;
   AERIAL TRAMWAY;SHIP;ROWBOAT;SPEEDBOAT;hz]q u;t]q u;xd i;qp CARS rz u;tr fg ON POST;DOOR;NO ENTRY i;SMOKING y;NO
   SMOKING y;PUT LITTER IN ITS pz y;DO n*LITTER y;POTABLE wt y;NON-POTABLE wt y;BICYCLE;NO BICYCLES;uu;mn uu;
   PEDESTRIAN;NO PEDESTRIANS;CHILDREN cs;MENS y;WOMENS y;RESTROOM;kb y;TOILET;wt CLOSET;SHOWER;BATH;BATHTUB;PASSPORT
   xw;CUSTOMS;BAGGAGE CLAIM;l LUGGAGE;dt!ru yc;PROHIBITED i;cc ib yj;BOYS y;GIRLS y;COUCH%LAMP;xn ACCOMMODATION;
   SHOPPING BAGS;BELLHOP jb;BED;pz OF WORSHIP;OCTAGONAL i;SHOPPING TROLLEY;STUPA;PAGODA;HINDU TEMPLE;HUT;
   ELEVATOR|1f6dd:PLAYGROUND SLIDE;WHEEL;rn BUOY;hm%WRENCH;SHIELD;OIL DRUM;MOTORWAY;rw TRACK;MOTOR BOAT;u*my&i;1&i;s&i)
   s&i;NORTHEAST-POINTING&i;ai DEPARTURE;1 ARRIVING|1f6f0:uj;o*gf ENGINE;DIESEL lv;PASSENGER SHIP;SCOOTER;MOTOR
   SCOOTER;CANOE;SLED;wf SAUCER;SKATEBOARD;AUTO RICKSHAW;PICKUP TRUCK;ROLLER SKATE|1f700:ALCHEMICAL y fj QUINTESSENCE;3
   AIR;gf;ej;wt;AQUAFORTIS;AQUA REGIA;4 REGIA-2;VITAE;VITAE-2;3 VINEGAR;VINEGAR-2;VINEGAR-3;yv;PHILOSOPHERS yv;b yv;
   MERCURY jp;4 SUBLIMATE-2;SUBLIMATE-3;3 CINNABAR;jd;NITRE;VITRIOL;VITRIOL-2;ROCK jd;4 SALT-2;3 GOLD;SILVER;IRON ORE;4
   ORE-2;3 CROCUS OF IRON;wr OF IRON;cz ORE;IRON-COPPER ORE;jp OF cz;CROCUS OF cz;5 COPPER-2;3 cz&z;jd OF cz&z;jp OF jd
   OF cz;VERDIGRIS;TIN ORE;LEAD ORE;am ORE;jp OF&m;jd OF&m;jp OF jd OF&m;VINEGAR OF&m;wr OF&m;5 ANTIMONY-2;3 wr;
   REGULUS-2;REGULUS-3;REGULUS-4;ALKALI;ALKALI-2;MARCASITE;SAL-AMMONIAC;ARSENIC;REALGAR;REALGAR-2;AURIPIGMENT;BISMUTH
   ORE;TARTAR;TARTAR-2;QUICK LIME;BORAX;BORAX-2;BORAX-3;ALUM;OIL;SPIRIT;TINCTURE;GUM;WAX;POWDER;CALX;TUTTY;CAPUT
   MORTUUM;SCEPTER OF JOVE;CADUCEUS;yf;STARRED yf;LODESTONE;SOAP;URINE;hs DUNG;ASHES;POT ASHES;BRICK;POWDERED BRICK;
   AMALGAM;STRATUM SUPER STRATUM;5 STRATUM-2;3 SUBLIMATION;PRECIPITATE;DISTILL;DISSOLVE;DISSOLVE-2;PURIFY;PUTREFACTION;
   CRUCIBLE;CRUCIBLE-2;CRUCIBLE-3;CRUCIBLE-4;CRUCIBLE-5;ALEMBIC;BATH OF MARY;5 VAPOURS;3 RETORT;HOUR;NIGHT;DAY-NIGHT;
   MONTH;hl DRAM;4 OUNCE|1f780:b lt ic r?t;1 u*ic r?t;rg ic r?t;dp ic r?t;qi, z)m<bf^ z;bf^ z;v^ z;v<v^ z;er v^ z;h z
   cg=, z;ROUND yx;b TINY,q;b qi,,q;u^,q;m<h,q;bf^,q;v^,q;v<v^,q;er v^,q;h,q cg= ve,,q;4 me,q)sq yx;b TINY?m;b ve,?m;b
   me,?m;h?m cg= ve,?m;4 m<dm)dm yx;b TINY lz;b ve, lz;b me, lz;h lz cg=, lz;THIN gr co;u gr co;m<gr co;bf gr co;v<bf
   gr co;v<v gr co;er v gr co;THIN os;u os;m<os;bf os;v os;v<v os;er v os;u fi,k&s;m<fi,k&s;bf fi,k&s;v fi,k&s;v<v fi,k
   &s;er v fi,k&s;u,i,k&s;me,i,k&s;bf,i,k&s;v,i,k&s;v<v,i,k&s;er v,i,k&s;u ei,k&s;m<ei,k&s;bf ei,k&s;v ei,k&s;v<v ei,k
   &s;u]h pi=,a;m<th pi=,a;th pi=,a;m<th pi pw,a;u f*pi=,a;m<f*pi=,a;f*pi=,a;m<f*pi pw,a;rv u f*pi pw,a;u fi pi=,a;v fi
   pi=,a;me,i pi=,a;v,i pi=,a;si pi pw,a;m<ei pi=,a;v ei pi=,a;v<v ei pi=,a;v ei pi pw,a;u]l pi=,a;v]l pi=,a;3 pw,a)cc
   ?t;n<cc?t;cc,q;n<cc,q|1f7e0:lr ob z;1 yw z;gn z;yq z;BROWN z;cr,q;ub,q;ob,q;yw,q;gn,q;yq,q;BROWN,q|1f7f0:v eu
   i|1f800:f&!s?t&r;uw&!s?t&r;g&!s?t&r;do&!s?t&r;f&!m<dt&r;uw&!m<dt&r;g&!m<dt&r;do&!m<dt&r;f&!lr?t&r;uw&!lr?t&r;g&!lr?t
   &r;do&!lr?t&r|1f810:f&!s eq&r;uw&!s eq&r;g&!s eq&r;do&!s eq&r;f&!eq&r;uw&!eq&r;g&!eq&r;do&!eq&r;v f&!eq&r;1 uw&!eq
   &r;g&!eq&r;do&!eq&r;f&!lr eq&r;uw&!lr eq&r;g&!lr eq&r;do&!lr eq&r)f]n&!nw,f;uw]n&!nw,f;g]n&!nw,f;d*tn&!nw,f;f]n&!me
   ,f;uw]n&!me,f;g]n&!me,f;d*tn&!me,f;f]n&!bf,f;uw]n&!bf,f;g]n&!bf,f;d*tn&!bf,f;f]n&!v,f;uw]n&!v,f;g]n&!v,f;d*tn&!v,f;f
   ]n&!v<v,f;uw]n&!v<v,f;g]n&!v<v,f;d*tn&!v<v,f;f fn&;uw fn&;g fn&;d*fn&;f,r&;uw,r&;g,r&;d*sr&;f cp&;uw cp&;g cp&;d*cp
   &;f v cp&;uw v cp&;g v cp&;d*v cp&;f v&;uw v&;g v&;d*v&|1f850:f,s&;uw,s&;g,s&;d*ss&;an we,s&;an ea,s&;s*ea,s&;s*we,s
   &;l r,s&;UP k,s&|1f860:gw f u=a&;1 uw u=a&;g u=a&;d*u=a&;an w<u=a&;an ea u=a&;s*ea u=a&;s*w<u=a&;f=a&;uw=a&;g=a&;d*
   ba&;an w<ba&;an ea=a&;s*ea=a&;s*w<ba&;f m<ba&;uw m<ba&;g m<ba&;d*m<ba&;an w<m<ba&;an ea m<ba&;s*ea m<ba&;s*w<m<ba&;f
   v=a&;uw v=a&;g v=a&;d*v=a&;an w<v=a&;an ea v=a&;s*ea v=a&;s*w<v=a&;f v<v=a&;uw v<v=a&;g v<v=a&;d*v<v=a&;an w<v<v=a&;
   an ea v<v=a&;s*ea v<v=a&;2 w<v<v=a&|1f890:f?t&r;uw?t&r;g?t&r;d*dt&r;f^& wb?t&r;uw^& wb?t&r;g^& wb?t&r;d*h& wb?t&r;f&
   !nt]a;uw&!nt]a;g&!nt]a;do&!nt]a;v&,f WIDTH on;4]w zt;on^l;5 ut)f BOTTOM-SHADED^&;g=*yy^&;f]k yy^&;g]k yy^&;f lk^&;g
   rd^&;f rd^&;g lk^&;f=w,h^&;g=w,h^&;f ft,h^&;g ft,h^&;h&,f WIDTH on;4]w zt|1f8b0:a p*uw vt&n we;2 g vt xy,*
   we|1f900:cc c*FORMEE!f*df;4]w?f;2 FORMEE)l^l z!f*df;4]h?f;tw?f;m;2 z)DOWNWARD FACING^o;2 nt^o;ho!m;nt^o!m)PINCHED
   fe;h^r;BROWN^r;PINCHING^n;ZIPPER-MOUTH j;MONEY-MOUTH j;j!zn;NERD j;THINKING j;j!HEAD-BANDAGE;ROBOT j;HUGGING j;i OF
   jt HORNS;CALL ME^n;ra=b OF^n;li FIST;zr FIST;HANDSHAKE;hn!id%gm f<cy;I LOVE YOU^n i;j!COWBOY HAT;CLOWN j;NAUSEATED
   j;ROLLING ON jt FLOOR LAUGHING;DROOLING j;LYING j;j PALM;SNEEZING j;j!on EYEBROW ra;gi j!sa ey;3 on lr%on, EYE)j!zf
   xq cl LIPS;SERIOUS j!SYMBOLS xq mt;sm j!sm ey%hn xq mt;j!op mt VOMITING;SHOCKED j!EXPLODING HEAD;PREGNANT wo;
   BREAST-FEEDING;PALMS UP[GETHER;SELFIE;PRINCE;jm IN TUXEDO;MOTHER xl;SHRUG;pn DOING CARTWHEEL;JUGGLING;FENCER;MODERN
   PENTATHLON;WRESTLERS;wt POLO;HANDBALL;DIVING MASK;WILTED fk;DRUM!DRUMSTICKS;CLINKING GLASSES;TUMBLER gs;SPOON;GOAL
   NET;RIFLE;fz pz mg;SECOND pz mg;ut pz mg;BOXING GLOVE;MARTIAL ARTS UNIFORM;CURLING STONE;LACROSSE qx%bh;SOFTBALL;wf
   DISC;CROISSANT;AVOCADO;CUCUMBER;BACON;POTATO;CARROT;BAGUETTE BREAD;gn SALAD;SHALLOW PAN OF FOOD;STUFFED ux;EGG;gs OF
   MILK;PEANUTS;KIWIFRUIT;PANCAKES;DUMPLING;FORTUNE COOKIE;TAKEOUT=x;CHOPSTICKS;BOWL!SPOON;CUP!STRAW;COCONUT;BROCCOLI;
   PIE;PRETZEL;CUT OF MEAT;SANDWICH;CANNED FOOD;LEAFY gn;MANGO;m*CAKE;BAGEL;sm j!sm ey%th^t;YAWNING j;sm j!TEAR;j!PARTY
   ^b%PARTY HAT;j!UNEVEN ey%WAVY mt;OVERHEATED j;FREEZING j;NINJA;DISGUISED j;j^i=b TEARS;j!PLEADING ey;SARI;LAB COAT;
   GOGGLES;HIKING BOOT;FLAT,y;CRAB;LION j;SCORPION;TURKEY;UNICORN j;EAGLE;DUCK;BAT;SHARK;OWL;FOX j;BUTTERFLY;DEER;
   GORILLA;LIZARD;RHINOCEROS;SHRIMP;SQUID;GIRAFFE j;ZEBRA j;HEDGEHOG;SAUROPOD;T-REX;CRICKET;KANGAROO;LLAMA;PEACOCK;
   HIPPOPOTAMUS;PARROT;RACCOON;LOBSTER;MOSQUITO;MICROBE;BADGER;SWAN;MAMMOTH;DODO;SLOTH;OTTER;ORANGUTAN;SKUNK;FLAMINGO;
   OYSTER;BEAVER;BISON;SEAL;GUIDE DOG;PROBING CANE;EMOJI COMPONENT cr vh;2 cu vh;BALD;h vh)BONE;le;FOOT;TOOTH;
   SUPERHERO;SUPERVILLAIN;y*VEST;EAR!HEARING AID;MOTORIZED wl;MANUAL wl;MECHANICAL ARM;1 le)CHEESE WEDGE;CUPCAKE;jd
   SHAKER;BEVERAGE=x;GARLIC;ONION;FALAFEL;WAFFLE;BUTTER;MATE DRINK;ICE CUBE;bd TEA;TROLL;STANDING pn;KNEELING pn;DEAF
   pn;j!MONOCLE;ADULT;CHILD;OLDER ADULT;BEARDED pn;pn!HEADSCARF;1 IN STEAMY ROOM;CLIMBING;IN LOTUS vp)MAGE;FAIRY;
   VAMPIRE;MERPERSON;ELF;GENIE;ZOMBIE;BRAIN;ob^r;BILLED CAP;SCARF;GLOVES;COAT;SOCKS;cr GIFT en;FIRECRACKER;JIGSAW
   PUZZLE pv;TEST TUBE;PETRI DISH;DNA? HELIX;COMPASS;ABACUS;gf EXTINGUISHER;TOOLBOX;BRICK;MAGNET;LUGGAGE;LOTION zb;
   SPOOL OF THREAD;bh OF YARN;y*PIN;TEDDY BEAR;BROOM;BASKET;ROLL OF rp;x OF SOAP;SPONGE;RECEIPT;NAZAR AMULET;nu ch ki;2
   qn;rk;bi;kn;pf)h ch kn r*fy?e;b ch kn r*fy?e;nu ch kn r*fy?e;h ch ki r*ni?e;2 qn r*ni?e;rk r*ni?e;bi r*ni?e;kn r*ni
   ?e;pf r*ni?e)b ch ki r*ni?e;2 qn r*ni?e;rk r*ni?e;bi r*ni?e;kn r*ni?e;pf r*ni?e)nu ch ki r*ni?e;2 qn r*ni?e;rk r*ni
   ?e;bi r*ni?e;kn r*ni?e;pf r*ni?e)h ch kn r*on^u]z?e;b ch kn r*on^u]z?e;nu ch kn r*on^u]z?e;h ch]u ki;3 qn;rk;bi;kn;
   pf)b ch]u ki;3 qn;rk;bi;kn;pf)nu ch]u ki;3 qn;rk;bi;kn;pf)h ch kn r*tw^u]v?e;b ch kn r*tw^u]v?e;nu ch kn r*tw^u]v?e;
   h ch ki r*tw^u,v?e;2 qn r*tw^u,v?e;rk r*tw^u,v?e;bi r*tw^u,v?e;kn r*tw^u,v?e;pf r*tw^u,v?e)b ch ki r*tw^u,v?e;2 qn
   r*tw^u,v?e;rk r*tw^u,v?e;bi r*tw^u,v?e;kn r*tw^u,v?e;pf r*tw^u,v?e)nu ch ki r*tw^u,v?e;2 qn r*tw^u,v?e;rk r*tw^u,v
   ?e;bi r*tw^u,v?e;kn r*tw^u,v?e;pf r*tw^u,v?e)h ch kn r*th^u ff?e;b ch kn r*th^u ff?e;nu ch kn r*th^u ff?e;h ch eo;b
   ch eo;nu ch eo;h ch e*r*ni?e;b ch e*r*ni?e;nu ch e*r*ni?e;h ch kq;2 kk;ko)b ch kq;2 kk;ko|1fa60:XIANGQI cr GENERAL;2
   MANDARIN;ef;hs;CHARIOT;CANNON;SOLDIER;1= GENERAL;2 MANDARIN;ef;hs;CHARIOT;CANNON;SOLDIER|1fa70:BALLET SHOES;
   ONE-PIECE SWIMSUIT;BRIEFS;ym;THONG SANDAL|1fa78:DROP OF BLOOD;ADHESIVE BANDAGE;STETHOSCOPE;X-RAY;CRUTCH|1fa80:YO-YO;
   KITE;PARACHUTE;BOOMERANG;MAGIC WAND;PINATA;NESTING DOLLS|1fa90:RINGED PLANET;CHAIR;RAZOR;AXE;DIYA LAMP;BANJO;my
   HELMET;ACCORDION;lb DRUM;COIN;CARPENTRY SAW;SCREWDRIVER;LADDER;ho;MIRROR;WINDOW;PLUNGER;SEWING NEEDLE;KNOT;BUCKET;mc
   TRAP;TOOTHBRUSH;hq;PLACARD;ROCK;MIRROR=h;ik jc;lw BATTERY;HAMSA|1fab0:FLY;WORM;BEETLE;COCKROACH;POTTED PLANT;WOOD;
   FEATHER;LOTUS;CORAL;em NEST;NEST!EGGS|1fac0:ANATOMICAL^r;LUNGS;PEOPLE HUGGING;PREGNANT jm;1 pn)pn!
   CROWN|1fad0:BLUEBERRIES;jb PEPPER;OLIVE;ux;TAMALE;FONDUE;TEAPOT;POURING LIQUID;BEANS;JAR|1fae0:MELTING j;SALUTING j;
   j!op ey%hn oa mt;2 PEEKING EYE;dg mt)dd ln j;BITING LIP;yg|1faf0:hn!id zf%THUMB cy;g^n;f^n;PALM k^n;1 UP^n)id p*AT
   jt VIEWER;hr^d|1fb00:bl SEXTANT-1;1 SEXTANT-2>12>3>13>23>123>4>14>24>124>34>134>234>1234>5>15>25>125>35>235>1235>45
   >145>245>1245>345>1345>2345>12345>6>16>26>126>36>136>236>1236>46>146>1246>346>1346>2346>12346>56>156>256>1256>356
   >1356>2356>12356>456>1456>2456>12456>3456>13456>23456)l*l=l?g l*gm l[ l*ce;9 r;4 up gm l[ l*ce;9 r;5 l[ l*ce;1 r=l?g
   up gm l[ up ce;9 r;4 l*gm l[ up ce;9 r;5 l[ up ce;gm l[ up gm r;c<TO l*gm r;l[ l*gm r;c<TO up gm r;l[ up gm r;c<TO
   up r;1 l=l?g up c<TO up gm r;5 l[ up gm r;c<TO l*gm r;l[ l*gm r;c<TO l*r;gm l[ l*gm r)up r=l?g l*gm l[ l*ce;9 r;4 up
   gm l[ l*ce;9 r;5 l[ l*ce;1 l=l?g up gm l[ up ce;9 r;4 l*gm l[ up ce;9 r;5 l[ up ce;gm l[ up gm r;c<TO l*gm r;l[ l*gm
   r;c<TO up gm r;l[ up gm r;c<TO up r;1 r=l?g up c<TO up gm r;5 l[ up gm r;c<TO l*gm r;l[ l*gm r;c<TO l*r;gm l[ l*gm
   r;1%r%l*tr]h qr=l)l%lo%r]r]h qr=l;up%l%l*tr]h qr=l;l%up%r]r]h qr=l;l]r on qa=l;up]r on qa=l;r]r on qa=l;l*tr on qa
   =l;t on eg BLOCK-2;3 BLOCK-3;BLOCK-4;BLOCK-5;BLOCK-6;BLOCK-7)hz on eg BLOCK-2;3 BLOCK-3;BLOCK-4;BLOCK-5;BLOCK-6;
   BLOCK-7)l%l*on eg=l;l%up on eg=l;r%up on eg=l;r%l*on eg=l;up%l*on eg=l;hz on eg BLOCK-1358;up on qa=l;1]h eh=l;fi eh
   =l;th qr=l;s<eh=l)r on qa=l;1]h eh=l;fi eh=l;th qr=l;s<eh=l)l^l m<ks;r^l m<ks;up^l m<ks;l*hl m<ks;iv m<ks;up^l=l%l*
   hl iv m<ks;2 iv m<ks%l*hl=l|1fb94:l^l iv m<ks%r^l=l;zc xb fb;iv zc xb fb;v^z fb;up l[ l*r fb;1 r[ l*l fb;n l*tr^l=l)
   l%r]r^l=l;up l]r m<ks;up r]r m<ks;l*r]r m<ks;l*l]r m<ks;bx DRAWINGS u?g up c<TO gm l;8 r;4 gm l[ l*ce;gm r[ l*ce;up
   c<TO gm l[ l*ce;8 r[ l*ce;4 gm l[ l*c<TO gm r;7 up c<TO gm r;4 up c<TO gm l%gm r[ l*ce;8 r%gm l[ l*ce;r[ l*c<TO gm
   l;l[ l*c<TO gm r;4 gm l[ up c<TO gm r[ l*ce;gm r[ up c<TO gm l[ l*ce;dm;3^z!t,t)ARROWHEAD-SHAPED pk;iv cw mr;l^l ur
   jm;r^l ur jm;iv?o&!kt f;f&%up%l*on eg=l;g&%up%l*on eg=l;do&%r on eg=l;uw&%r on eg=l;l^l fl;r^l fl;VOIDED gr co;r op
   ,r m;n<dg co;2 gm r[ l*ce;dm)h v os!ru yc;l ut^ r p*id;gm ut^ r p*id;r ut^ r p*id;ne,r q<mr;qx lf;2!ARMS ra;LEANING
   l;3 r;2!DRESS)h u*CHEVRON|1fbf0:SEGMENTED?b ze;2 on;tw;th;fo;fi;si;se;ei;nn"

/-- further names, most of them of control characters -/
def charAliases : String :=
  "NULL=0 START_OF_HEADING=1 START_OF_TEXT=2 END_OF_TEXT=3 END_OF_TRANSMISSION=4 ENQUIRY=5 ACKNOWLEDGE=6 ALERT=7
   BACKSPACE=8 CHARACTER_TABULATION=9 HORIZONTAL_TABULATION=9 LINE_FEED=a NEW_LINE=a END_OF_LINE=a LINE_TABULATION=b
   VERTICAL_TABULATION=b FORM_FEED=c CARRIAGE_RETURN=d SHIFT_OUT=e LOCKING-SHIFT_ONE=e SHIFT_IN=f LOCKING-SHIFT_ZERO=f
   DATA_LINK_ESCAPE=10 DEVICE_CONTROL_ONE=11 DEVICE_CONTROL_TWO=12 DEVICE_CONTROL_THREE=13 DEVICE_CONTROL_FOUR=14
   NEGATIVE_ACKNOWLEDGE=15 SYNCHRONOUS_IDLE=16 END_OF_TRANSMISSION_BLOCK=17 CANCEL=18 END_OF_MEDIUM=19 SUBSTITUTE=1a
   ESCAPE=1b INFORMATION_SEPARATOR_FOUR=1c FILE_SEPARATOR=1c INFORMATION_SEPARATOR_THREE=1d GROUP_SEPARATOR=1d
   INFORMATION_SEPARATOR_TWO=1e RECORD_SEPARATOR=1e INFORMATION_SEPARATOR_ONE=1f UNIT_SEPARATOR=1f DELETE=7f
   PADDING_CHARACTER=80 HIGH_OCTET_PRESET=81 BREAK_PERMITTED_HERE=82 NO_BREAK_HERE=83 INDEX=84 NEXT_LINE=85
   START_OF_SELECTED_AREA=86 END_OF_SELECTED_AREA=87 CHARACTER_TABULATION_SET=88 LINE_TABULATION_SET=8a
   PARTIAL_LINE_FORWARD=8b PARTIAL_LINE_BACKWARD=8c REVERSE_LINE_FEED=8d SINGLE_SHIFT_TWO=8e SINGLE_SHIFT_THREE=8f
   DEVICE_CONTROL_STRING=90 PRIVATE_USE_ONE=91 PRIVATE_USE_TWO=92 SET_TRANSMIT_STATE=93 CANCEL_CHARACTER=94
   MESSAGE_WAITING=95 START_OF_GUARDED_AREA=96 END_OF_GUARDED_AREA=97 START_OF_STRING=98
   SINGLE_GRAPHIC_CHARACTER_INTRODUCER=99 SINGLE_CHARACTER_INTRODUCER=9a CONTROL_SEQUENCE_INTRODUCER=9b
   STRING_TERMINATOR=9c OPERATING_SYSTEM_COMMAND=9d PRIVACY_MESSAGE=9e APPLICATION_PROGRAM_COMMAND=9f NUL=0 SOH=1
   STX=2 ETX=3 EOT=4 ENQ=5 ACK=6 BEL=7 BS=8 HT=9 TAB=9 LF=a NL=a EOL=a VT=b FF=c CR=d SO=e SI=f DLE=10 DC1=11 DC2=12
   DC3=13 DC4=14 NAK=15 SYN=16 ETB=17 CAN=18 EOM=19 SUB=1a ESC=1b FS=1c GS=1d RS=1e US=1f SP=20 DEL=7f PAD=80 HOP=81
   BPH=82 NBH=83 IND=84 NEL=85 SSA=86 ESA=87 HTS=88 HTJ=89 VTS=8a PLD=8b PLU=8c RI=8d SS2=8e SS3=8f DCS=90 PU1=91
   PU2=92 STS=93 CCH=94 MW=95 SPA=96 EPA=97 SOS=98 SGC=99 SCI=9a CSI=9b ST=9c OSC=9d PM=9e APC=9f NBSP=a0 SHY=ad
   CGJ=34f ALM=61c ZWSP=200b ZWNJ=200c ZWJ=200d LRM=200e RLM=200f LRE=202a RLE=202b PDF=202c LRO=202d RLO=202e
   NNBSP=202f MMSP=205f WJ=2060 LRI=2066 RLI=2067 FSI=2068 PDI=2069 BYTE_ORDER_MARK=feff BOM=feff ZWNBSP=feff
   LATIN_CAPITAL_LETTER_GHA=1a2 LATIN_SMALL_LETTER_GHA=1a3 WEIERSTRASS_ELLIPTIC_FUNCTION=2118 MICR_ON_US_SYMBOL=2448
   MICR_DASH_SYMBOL=2449"

end Apidoc.Text.Table
