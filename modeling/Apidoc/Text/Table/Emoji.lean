import Apidoc.Text.Ranges

/-!
# Names of pictures

The pictographs that have the names of their characters, and the short names of others with their code points, as words
`name=code-code`.  A plus sign at the end stands for the picture in all skin tones as well.  Two capital letters stand
for the flag of a country, and a star after them for a second name, with `flag_for_` before it.  Other signs stand for
pieces of the text that recur.
-/

namespace Apidoc.Text.Table

def pictographs : Ranges :=
  Ranges.ofText
    "203c d f0 5b 15 171-1 d 60 47 21-2 6-2 1b0-1 50-3 3-3 d 3-1 3 8 2-1 3 4 4-1 9-1 7 2 6-b 15 17 13-2 2-1 2 2-1 14-1
   c-1 6-1 3 6-1 2 2-1 15-1 6-5 2-3 3 8 3-1 9 2 2 7 4 7 b-1 10 3 5 2 15 32-2 19 f 35c-1 34 5 4db d 1c1a9-19 101-6 2-4 4
   9-8 3-18 2-7 2-d 2-4 2-8 2-f 2-9 2-2 2 2-b 3-1 2-2 3-12 2-3 2-6 4 2-3 2-17 2-5 2-8 3-2 2-3 6 2-1 3 3-1 2-1 2-5 3-13
   2-15 3-1 c-f 3-2 5-3 4-4 4-2 3-6 3-7 2-10 2-1 4 2 3-2 2-3 5 2 2-2 2-4 2-1b 3-2 2 2-7 2-2 2-6 2-1 8 3-1 3-3 2 2 2 d
   2-7 2-3 2-4 10-5 21-1 3-6 e 3-3 3 5-1 e-1 3 9-1 a 6-2 d-2 9-2 3 2 5 7 4 7-3 2-1 2 5-3 2 2-4 2-3 2-1 4-5 3-9 2-8 3
   2-6 4-2 4 32-4 3-11 2-c 3-2 7-3 2-1 3-a 6-5 5 b-5 4 2-1 7 2-5 213-a 6 4-4 2 18-1 2-3 5-2 2-b 2-1 2-11 2 a-16 3-e 3-5
   4-1 5-d 2-5 7-1 e-8 2 2-1 2-7 3-4 2-2 71-3 5-2 6-1 f-5"

def emojiPieces : String :=
  "$=1f/%-200d-/,-fe0f/:man_/; regional_indicator_/<ing/>_button/?* /^an/@ person_"

def emoji : String :=
  "1st_place_medal$947 2nd_place_medal$948 3rd_place_medal$949 ab>_(blood_type)$18e atm_sign$3e7 a>_(blood_type)$170
   afgh^ist^=AF?alb^ia=AL?algeria=DZ?americ^_samoa=AS?^dorra=AD?^gola=AO?^guilla=AI?^tarctica=AQ?^tigua_&_barbuda=AG?
   argentina=AR?armenia=AM?aruba=AW?ascension_isl^d=AC?australia=AU?austria=AT?azerbaij^=AZ?back_arrow$519
   b>_(blood_type)$171 bahamas=BS?bahrain=BH?b^gladesh=BD?barbados=BB?belarus=BY?belgium=BE?belize=BZ?benin=BJ?
   bermuda=BM?bhut^=BT?bolivia=BO?bosnia_&_herzegovina=BA?botsw^a=BW?bouvet_isl^d=BV?brazil=BR?
   british_indi^_oce^_territory=IO?british_virgin_isl^ds=VG?brunei=BN?bulgaria=BG?burkina_faso=BF?burundi=BI?cl>$191
   cool>$192 cambodia=KH?cameroon=CM?c^ada=CA?c^ary_isl^ds=IC?cape_verde=CV?caribbe^_netherl^ds=BQ?cay:isl^ds=KY?
   central_afric^_republic=CF?ceuta_&_melilla=EA?chad=TD?chile=CL?china=CN?christmas_isl^d=CX?clipperton_isl^d=CP?
   cocos_(keel<)_isl^ds=CC colombia=CO?comoros=KM?congo_-_brazzaville=CG congo_-_kinshasa=CD cook_isl^ds=CK?
   costa_rica=CR?croatia=HR?cuba=CU?curaçao=CW?cyprus=CY?czechia=CZ côte_d’ivoire=CI?denmark=DK?diego_garcia=DG?
   djibouti=DJ?dominica=DM?dominic^_republic=DO?end_arrow$51a ecuador=EC?egypt=EG?el_salvador=SV?
   engl^d$3f4-e0067-e0062-e0065-e006e-e0067-e007f equatorial_guinea=GQ?eritrea=ER?estonia=EE?ethiopia=ET?
   europe^_union=EU?free>$193 falkl^d_isl^ds=FK?faroe_isl^ds=FO?fiji=FJ?finl^d=FI?fr^ce=FR?french_gui^a=GF?
   french_polynesia=PF?french_southern_territories=TF?gabon=GA?gambia=GM?georgia=GE?germ^y=DE?gh^a=GH?gibraltar=GI?
   greece=GR?greenl^d=GL?grenada=GD?guadeloupe=GP?guam=GU?guatemala=GT?guernsey=GG?guinea=GN?guinea-bissau=GW guy^a=GY?
   haiti=HT?heard_&_mcdonald_isl^ds=HM?honduras=HN?hong_kong_sar_china=HK hungary=HU?id>$194 icel^d=IS?india=IN?
   indonesia=ID?ir^=IR?iraq=IQ?irel^d=IE?isle_of_m^=IM?israel=IL?italy=IT?jamaica=JM?jap^$5fe jap^ese_acceptable>$251
   jap^ese_application>$238 jap^ese_bargain>$250 jap^ese_congratulations>=3297 jap^ese_discount>$239
   jap^ese_free_of_charge>$21a jap^ese_here>$201 jap^ese_monthly_amount>$237 jap^ese_no_vac^cy>$235
   jap^ese_not_free_of_charge>$236 jap^ese_open_for_business>$23a jap^ese_pass<_grade>$234 jap^ese_prohibited>$232
   jap^ese_reserved>$22f jap^ese_secret>=3299 jap^ese_service_charge>$202 jap^ese_vac^cy>$233 jersey=JE?jord^=JO?
   kazakhst^=KZ?kenya=KE?kiribati=KI?kosovo=XK?kuwait=KW?kyrgyzst^=KG?laos=LA?latvia=LV?leb^on=LB?lesotho=LS?
   liberia=LR?libya=LY?liechtenstein=LI?lithu^ia=LT?luxembourg=LU?macau_sar_china=MO macedonia=MK?madagascar=MG?
   malawi=MW?malaysia=MY?maldives=MV?mali=ML?malta=MT?marshall_isl^ds=MH?martinique=MQ?maurit^ia=MR?mauritius=MU?
   mayotte=YT?mexico=MX?micronesia=FM?moldova=MD?monaco=MC?mongolia=MN?montenegro=ME?montserrat=MS?morocco=MA?
   mozambique=MZ?mrs._claus$936+ my^mar_(burma)=MM new>$195 ng>$196 namibia=NA?nauru=NR?nepal=NP?netherl^ds=NL?
   new_caledonia=NC?new_zeal^d=NZ?nicaragua=NI?niger=NE?nigeria=NG?niue=NU?norfolk_isl^d=NF?north_korea=KP?
   northern_mari^a_isl^ds=MP?norway=NO?ok>$197 ok_h^d$44c+ on!_arrow$51b o>_(blood_type)$17e om^=OM?p>$17f pakist^=PK?
   palau=PW?palestini^_territories=PS?p^ama=PA?papua_new_guinea=PG?paraguay=PY?peru=PE?philippines=PH?
   pitcairn_isl^ds=PN?pol^d=PL?portugal=PT?puerto_rico=PR?qatar=QA?rom^ia=RO?russia=RU?rw^da=RW?réunion=RE?
   soon_arrow$51c sos>$198 samoa=WS?s^_marino=SM?s^ta_claus$385+ saudi_arabia=SA?scorpio=264f
   scotl^d$3f4-e0067-e0062-e0073-e0063-e0074-e007f senegal=SN?serbia=RS?seychelles=SC?sierra_leone=SL?s<apore=SG?
   sint_maarten=SX?slovakia=SK?slovenia=SI?solomon_isl^ds=SB?somalia=SO?south_africa=ZA?
   south_georgia_&_south_s^dwich_isl^ds=GS?south_korea=KR?south_sud^=SS?spain=ES?sri_l^ka=LK?st._barthélemy=BL?
   st._helena=SH?st._kitts_&_nevis=KN?st._lucia=LC?st._martin=MF?st._pierre_&_miquelon=PM?st._vincent_&_grenadines=VC?
   sud^=SD?suriname=SR?svalbard_&_j^_mayen=SJ?swazil^d=SZ?sweden=SE?switzerl^d=CH?syria=SY?são_tomé_&_príncipe=ST?
   top_arrow$51d taiw^=TW?tajikist^=TJ?t^z^ia=TZ?thail^d=TH?timor-leste=TL togo=TG?tokelau=TK?tonga=TO?
   trinidad_&_tobago=TT?trist^_da_cunha=TA?tunisia=TN?turkmenist^=TM?turks_&_caicos_isl^ds=TC?tuvalu=TV?
   u.s._outly<_isl^ds=UM?u.s._virgin_isl^ds=VI?up!>$199 ug^da=UG?ukraine=UA?united_arab_emirates=AE?united_k<dom=GB?
   united_nations=UN united_states=US?uruguay=UY?uzbekist^=UZ?vs>$19a v^uatu=VU?vatic^_city=VA?venezuela=VE?vietnam=VN?
   wales$3f4-e0067-e0062-e0077-e006c-e0073-e007f wallis_&_futuna=WF?western_sahara=EH?yemen=YE?zambia=ZM?zimbabwe=ZW?
   adult$9d1+ airpl^e_arrival$6ec alien$47d ^gry_face_with_horns$47f ^tenna_bars$4f6 ^xious_face_with_sweat$630
   baby$476+ baby_^gel$47c+ backh^d_index_point<_down$447+ backh^d_index_point<_left$448+
   backh^d_index_point<_right$449+ backh^d_index_point<_up$446+ badminton$3f8 bal^ce_scale=2696 bald$9b2
   bald_m^$468%1f9b2 bald_wom^$469%1f9b2 basketball$3c0 beam<_face_with_smil<_eyes$601 bearded_person$9d4+
   bell_with_slash$515 biohazard=2623 black_circle=26ab black_flag$3f4 black_medium-small_square=25fe
   blond-haired_m^$471%2642,+ blond-haired_person$471+ blond-haired_wom^$471%2640,+ blue_circle$535 blue_square$7e6
   boy$466+ breast-feed<$931+ bride_with_veil$470+ bright>$506 brown_circle$7e4 brown_square$7eb bullet_train$685
   calendar$4c6 call_me_h^d$919+ camel$42b castle$3f0 cat$431 chart_decreas<$4c9 chart_increas<$4c8
   chart_increas<_with_yen$4b9 chess_pawn=265f child$9d2+ cigarette$6ac circled_m=24c2 clamp$5dc clapp<_h^ds$44f+
   clockwise_vertical_arrows$503 cloud_with_lightn<_^d_rain=26c8 club_suit=2663 clutch_bag$45d cold_face$976
   collision$4a5 computer_disk$4bd computer_mouse$5b1 construction$6a7 construction_worker$477+ copyright=a9
   counterclockwise_arrows>$504 couple_with_heart_:m^$468%2764,%1f468 couple_with_heart_wo:m^$469%2764,%1f468
   couple_with_heart_wo:wom^$469%2764,%1f469 cow$42e cowboy_hat_face$920 crayon$58d cricket_game$3cf cross_mark>=274e
   crossed_f<ers$91e+ curly_hair$9b1 curly-haired_m^$468%1f9b1 curly-haired_wom^$469%1f9b1 curry_rice$35b dagger$5e1
   dash<_away$4a8 derelict_house$3da detective$575+ diamond_suit=2666 diamond_with_a_dot$4a0 dim>$505 dizzy$4ab dna$9ec
   dog$436 dollar_b^knote$4b5 dotted_six-pointed_star$52f dove$54a down-left_arrow=2199 down-right_arrow=2198
   down_arrow=2b07 downcast_face_with_sweat$613 downwards>$53d drum$941 e-mail$4e7 ear$442+ ear_of_corn$33d egg$373
   eggpl^t$346 eight-pointed_star=2734 eight-spoked_asterisk=2733 eight-thirty$563 eight_o’clock$557 eject>=23cf
   eleven-thirty$566 eleven_o’clock$55a elf$9dd+ envelope_with_arrow$4e9 euro_b^knote$4b6 ewe$411 exclamation_mark=2757
   explod<_head$92f eye_in_speech_bubble$441,%1f5e8, face_blow<_a_kiss$618 face_savor<_food$60b face_vomit<$92e
   face_with_h^d_over_mouth$92d face_with_raised_eyebrow$928 face_with_steam_from_nose$624
   face_with_symbols_on_mouth$92c face_with_tongue$61b fairy$9da+ family_:boy$468%1f466 family_:boy_boy$468%1f466%1f466
   family_:girl$468%1f467 family_:girl_boy$468%1f467%1f466 family_:girl_girl$468%1f467%1f467
   family_::boy$468%1f468%1f466 family_::boy_boy$468%1f468%1f466%1f466 family_::girl$468%1f468%1f467
   family_::girl_boy$468%1f468%1f467%1f466 family_::girl_girl$468%1f468%1f467%1f467 family_:wo:boy$468%1f469%1f466
   family_:wo:boy_boy$468%1f469%1f466%1f466 family_:wo:girl$468%1f469%1f467 family_:wo:girl_boy$468%1f469%1f467%1f466
   family_:wo:girl_girl$468%1f469%1f467%1f467 family_wo:boy$469%1f466 family_wo:boy_boy$469%1f466%1f466
   family_wo:girl$469%1f467 family_wo:girl_boy$469%1f467%1f466 family_wo:girl_girl$469%1f467%1f467
   family_wo:wo:boy$469%1f469%1f466 family_wo:wo:boy_boy$469%1f469%1f466%1f466 family_wo:wo:girl$469%1f469%1f467
   family_wo:wo:girl_boy$469%1f469%1f467%1f466 family_wo:wo:girl_girl$469%1f469%1f467%1f467 fast-forward>=23e9
   fast_down>=23ec fast_reverse>=23ea fast_up>=23eb field_hockey$3d1 first_quarter_moon$313 first_quarter_moon_face$31b
   fish_cake_with_swirl$365 fish<_pole$3a3 five-thirty$560 five_o’clock$554 flashlight$526 flexed_biceps$4aa+
   folded_h^ds$64f+ fountain_pen$58b four-thirty$55f four_o’clock$553 framed_picture$5bc frown<_face=2639 full_moon$315
   full_moon_face$31d giraffe$992 girl$467+ glasses$453 globe_show<_americas$30e globe_show<_asia-australia$30f
   globe_show<_europe-africa$30d goblin$47a green_circle$7e2 green_square$7e9 grinn<_cat_face$63a
   grinn<_face_with_big_eyes$603 grinn<_face_with_smil<_eyes$604 grinn<_face_with_sweat$605 grinn<_squint<_face$606
   guard$482+ h^d_with_f<ers_splayed$590+ heart_suit=2665 heavy_heart_exclamation=2763 high_voltage=26a1 horse$434
   horse_rac<$3c7+ hot_face$975 hourglass_done=231b hourglass_not_done=23f3 house$3e0 houses$3d8 hundred_points$4af
   ice$9ca ice_hockey$3d2 index_point<_up=261d+ infinity=267e information=2139 input_latin_letters$524
   input_latin_lowercase$521 input_latin_uppercase$520 input_numbers$522 input_symbols$523 jigsaw$9e9 joker$0cf
   keycap_#=23,-20e3 keycap_*=2a,-20e3 keycap_0=30,-20e3 keycap_1=31,-20e3 keycap_10$51f keycap_2=32,-20e3
   keycap_3=33,-20e3 keycap_4=34,-20e3 keycap_5=35,-20e3 keycap_6=36,-20e3 keycap_7=37,-20e3 keycap_8=38,-20e3
   keycap_9=39,-20e3 kick_scooter$6f4 kiss$48b kiss_:m^$468%2764,%1f48b%1f468 kiss_wo:m^$469%2764,%1f48b%1f468
   kiss_wo:wom^$469%2764,%1f48b%1f469 kiss<_cat_face$63d kitchen_knife$52a kiwi_fruit$95d lacrosse$94d
   laptop_computer$4bb last_quarter_moon$317 last_quarter_moon_face$31c last_track>=23ee left-fac<_fist$91b+
   left-right_arrow=2194 left_arrow=2b05 left_arrow_curv<_right=21aa light_bulb$4a1 link$517 litter_in_bin_sign$6ae
   locked$512 locked_with_key$510 locked_with_pen$50f locomotive$682 loudspeaker$4e2 love-you_gesture$91f+ mage$9d9+
   magnify<_glass_tilted_left$50d magnify<_glass_tilted_right$50e mahjong_red_dragon$004 m^$468+ :artist$468%1f3a8+
   :astronaut$468%1f680+ :bik<$6b4%2642,+ :bounc<_ball=26f9,%2642,+ :bow<$647%2642,+ :cartwheel<$938%2642,+
   :climb<$9d7%2642,+ :construction_worker$477%2642,+ :cook$468%1f373+ :d^c<$57a+ :detective$575,%2642,+
   :elf$9dd%2642,+ :facepalm<$926%2642,+ :factory_worker$468%1f3ed+ :fairy$9da%2642,+ :farmer$468%1f33e+
   :firefighter$468%1f692+ :frown<$64d%2642,+ :genie$9de%2642, :gestur<_no$645%2642,+ :gestur<_ok$646%2642,+
   :gett<_haircut$487%2642,+ :gett<_massage$486%2642,+ :golf<$3cc,%2642,+ :guard$482%2642,+ :health_worker$468%2695,+
   :in_lotus_position$9d8%2642,+ :in_m^ual_wheelchair$468%1f9bd :in_motorized_wheelchair$468%1f9bc
   :in_steamy_room$9d6%2642,+ :in_suit_levitat<$574+ :in_tuxedo$935+ :judge$468%2696,+ :juggl<$939%2642,+
   :lift<_weights$3cb,%2642,+ :mage$9d9%2642,+ :mech^ic$468%1f527+ :mountain_bik<$6b5%2642,+ :office_worker$468%1f4bc+
   :pilot$468%2708,+ :play<_h^dball$93e%2642,+ :play<_water_polo$93d%2642,+ :police_officer$46e%2642,+
   :pout<$64e%2642,+ :rais<_h^d$64b%2642,+ :row<_boat$6a3%2642,+ :runn<$3c3%2642,+ :scientist$468%1f52c+
   :shrugg<$937%2642,+ :s<er$468%1f3a4+ :student$468%1f393+ :surf<$3c4%2642,+ :swimm<$3ca%2642,+ :teacher$468%1f3eb+
   :technologist$468%1f4bb+ :tipp<_h^d$481%2642,+ :vampire$9db%2642,+ :walk<$6b6%2642,+ :wear<_turb^$473%2642,+
   :with_prob<_c^e$468%1f9af :with_chinese_cap$472+ :zombie$9df%2642, m^’s_shoe$45e map_of_jap^$5fe mate$9c9
   medical_symbol=2695 megaphone$4e3 men_with_bunny_ears$46f%2642, men_wrestl<$93c%2642, menorah$54e men’s_room$6b9
   mermaid$9dc%2640,+ merm^$9dc%2642,+ merperson$9dc+ middle_f<er$595+ moai$5ff mobile_phone_with_arrow$4f2
   motorcycle$3cd mouse$42d musical_notes$3b6 muted_speaker$507 nail_polish$485+ new_moon$311 new_moon_face$31a
   next_track>=23ed nine-thirty$564 nine_o’clock$558 no_litter<$6af no_one_under_eighteen$51e no_smok<$6ad
   non-potable_water$6b1 nose$443+ ogre$479 old_m^$474+ old_wom^$475+ older_adult$9d3+ om$549 oncom<_fist$44a+
   one-thirty$55c one_o’clock$550 open_h^ds$450+ optical_disk$4bf or^ge_circle$7e0 or^ge_square$7e7 paintbrush$58c
   palms_up_together$932+ party<_face$973 pause>=23f8 pen$58a pencil$4dd people_hold<_h^ds$9d1%1f91d%1f9d1
   people_with_bunny_ears$46f people_wrestl<$93c@bik<$6b4+@bounc<_ball=26f9+@bow<$647+@cartwheel<$938+@climb<$9d7+
   @facepalm<$926+@fenc<$93a@frown<$64d+@gestur<_no$645+@gestur<_ok$646+@gett<_haircut$487+@gett<_massage$486+
   @golf<$3cc+@in_bed$6cc+@in_lotus_position$9d8+@in_steamy_room$9d6+@juggl<$939+@kneel<$9ce@lift<_weights$3cb+
   @mountain_bik<$6b5+@play<_h^dball$93e+@play<_water_polo$93d+@pout<$64e+@rais<_h^d$64b+@row<_boat$6a3+@runn<$3c3+
   @shrugg<$937+@st^d<$9cd@surf<$3c4+@swimm<$3ca+@tak<_bath$6c0+@tipp<_h^d$481+@walk<$6b6+@wear<_turb^$473+ pig$437
   p<_pong$3d3 pirate_flag$3f4%2620, pizza$355 play>=25b6 play_or_pause>=23ef plead<_face$97a police_car_light$6a8
   police_officer$46e+ pool_8_ball$3b1 post_office$3e3 potable_water$6b0 pound_b^knote$4b7 pregn^t_wom^$930+
   prince$934+ princess$478+ prohibited$6ab purple_circle$7e3 purple_square$7ea question_mark=2753 rabbit$430
   radioactive=2622 rainbow_flag$3f3,%1f308 raised_back_of_h^d$91a+ raised_fist=270a+ raised_h^d=270b+ rais<_h^ds$64c+
   record>=23fa recycl<_symbol=267b red_circle$534 red_envelope$9e7 red_hair$9b0 red-haired_m^$468%1f9b0
   red-haired_wom^$469%1f9b0 red_heart=2764 red_paper_l^tern$3ee red_square$7e5 red_tri^gle_pointed_down$53b
   red_tri^gle_pointed_up$53a registered=ae repeat>$501 repeat_s<le>$502 rescue_worker’s_helmet=26d1 reverse>=25c0
   right-fac<_fist$91c+ right_arrow=27a1 right_arrow_curv<_down=2935 right_arrow_curv<_left=21a9
   right_arrow_curv<_up=2934 runn<_shirt$3bd runn<_shoe$45f sad_but_relieved_face$625 salt$9c2 sake$376 satellite$4e1
   school_backpack$392 scissors=2702 selfie$933+ service_dog$415%1f9ba seven-thirty$562 seven_o’clock$556
   sheaf_of_rice$33e shopp<_cart$6d2 shuffle_tracks>$500 shush<_face$92b sign_of_the_horns$918+ six-thirty$561
   six_o’clock$555 skis$3bf smil<_cat_face_with_heart-eyes$63b smil<_face=263a smil<_face_with_3_hearts$970
   smil<_face_with_heart-eyes$60d snow-capped_mountain$3d4 snowboarder$3c2+ soap$9fc spade_suit=2660 sparkler$387
   speaker_high_volume$50a speaker_low_volume$508 speaker_medium_volume$509 speak<_head$5e3 spiral_calendar$5d3
   spiral_notepad$5d2 sport_utility_vehicle$699 squint<_face_with_tongue$61d star-struck$929 stop>=23f9 stop_sign$6d1
   sun=2600 sun_behind_large_cloud$325 sun_behind_rain_cloud$326 sun_behind_small_cloud$324 sunglasses$60e sunset$307
   sweat_droplets$4a6 telephone=260e ten-thirty$565 ten_o’clock$559 tennis$3be thread$9f5 three-thirty$55e
   three_o’clock$552 thumbs_down$44e+ thumbs_up$44d+ tiger$42f tornado$32a trade_mark=2122 train$68b tri^gular_flag$6a9
   twelve-thirty$567 twelve_o’clock$55b two-hump_camel$42b two-thirty$55d two_o’clock$551 unlocked$513
   up-down_arrow=2195 up-left_arrow=2196 up-right_arrow=2197 up_arrow=2b06 upwards>$53c vampire$9db+ victory_h^d=270c+
   vulc^_salute$596+ w^<_crescent_moon$318 w^<_gibbous_moon$316 warn<=26a0 wav<_h^d$44b+ wax<_crescent_moon$312
   wax<_gibbous_moon$314 whale$433 white_circle=26aa white_exclamation_mark=2755 white_flag$3f3 white_hair$9b3
   white-haired_m^$468%1f9b3 white-haired_wom^$469%1f9b3 white_medium-small_square=25fd white_question_mark=2754
   wind_face$32c wink<_face_with_tongue$61c wom^$469+ wo:artist$469%1f3a8+ wo:astronaut$469%1f680+ wo:bik<$6b4%2640,+
   wo:bounc<_ball=26f9,%2640,+ wo:bow<$647%2640,+ wo:cartwheel<$938%2640,+ wo:climb<$9d7%2640,+
   wo:construction_worker$477%2640,+ wo:cook$469%1f373+ wo:d^c<$483+ wo:detective$575,%2640,+ wo:elf$9dd%2640,+
   wo:facepalm<$926%2640,+ wo:factory_worker$469%1f3ed+ wo:fairy$9da%2640,+ wo:farmer$469%1f33e+
   wo:firefighter$469%1f692+ wo:frown<$64d%2640,+ wo:genie$9de%2640, wo:gestur<_no$645%2640,+ wo:gestur<_ok$646%2640,+
   wo:gett<_haircut$487%2640,+ wo:gett<_massage$486%2640,+ wo:golf<$3cc,%2640,+ wo:guard$482%2640,+
   wo:health_worker$469%2695,+ wo:in_lotus_position$9d8%2640,+ wo:in_m^ual_wheelchair$469%1f9bd
   wo:in_motorized_wheelchair$469%1f9bc wo:in_steamy_room$9d6%2640,+ wo:judge$469%2696,+ wo:juggl<$939%2640,+
   wo:lift<_weights$3cb,%2640,+ wo:mage$9d9%2640,+ wo:mech^ic$469%1f527+ wo:mountain_bik<$6b5%2640,+
   wo:office_worker$469%1f4bc+ wo:pilot$469%2708,+ wo:play<_h^dball$93e%2640,+ wo:play<_water_polo$93d%2640,+
   wo:police_officer$46e%2640,+ wo:pout<$64e%2640,+ wo:rais<_h^d$64b%2640,+ wo:row<_boat$6a3%2640,+ wo:runn<$3c3%2640,+
   wo:scientist$469%1f52c+ wo:shrugg<$937%2640,+ wo:s<er$469%1f3a4+ wo:student$469%1f393+ wo:surf<$3c4%2640,+
   wo:swimm<$3ca%2640,+ wo:teacher$469%1f3eb+ wo:technologist$469%1f4bb+ wo:tipp<_h^d$481%2640,+ wo:vampire$9db%2640,+
   wo:walk<$6b6%2640,+ wo:wear<_turb^$473%2640,+ wo:with_headscarf$9d5+ wo:with_prob<_c^e$469%1f9af wo:zombie$9df%2640,
   wom^’s_boot$462 wom^’s_clothes$45a wom^’s_hat$452 wom^’s_s^dal$461 women_with_bunny_ears$46f%2640,
   women_wrestl<$93c%2640, women’s_room$6ba woozy_face$974 wrapped_gift$381 writ<_h^d=270d+ yarn$9f6 yellow_circle$7e1
   yellow_square$7e8 yen_b^knote$4b4 z^y_face$92a zebra$993 zzz$4a4 ål^d_isl^ds=AX?keycap_asterisk=2a-20e3
   keycap_digit_eight=38-20e3 keycap_digit_five=35-20e3 keycap_digit_four=34-20e3 keycap_digit_nine=39-20e3
   keycap_digit_one=31-20e3 keycap_digit_seven=37-20e3 keycap_digit_six=36-20e3 keycap_digit_three=33-20e3
   keycap_digit_two=32-20e3 keycap_digit_zero=30-20e3 keycap_number_sign=23-20e3 light_skin_tone$3fb
   medium_light_skin_tone$3fc medium_skin_tone$3fd medium_dark_skin_tone$3fe dark_skin_tone$3ff space_invader$47e
   football$3c8 ^ger$4a2 ^gry$620 ^guished$627 signal_strength$4f6 arrows_counterclockwise$504 arrow_head<_down=2935
   arrow_head<_up=2934 art$3a8 astonished$632 atm$3e7 car$697 red_car$697 ^gel$47c back$519 dollar$4b5 euro$4b6
   pound$4b7 yen$4b4 barber$488 bear$43b heartbeat$493 beer$37a no_bell$515 bento$371 bike$6b2 8ball$3b1 birthday$382
   clubs=2663 diamonds=2666 arrow_double_down=23ec hearts=2665 rewind=23ea
   black_left__point<_double_tri^gle_with_vertical_bar=23ee arrow_backward=25c0 question=2753 fast_forward=23e9
   black_right__point<_double_tri^gle_with_vertical_bar=23ed arrow_forward=25b6
   black_right__point<_tri^gle_with_double_vertical_bar=23ef arrow_right=27a1 spades=2660 sunny=2600 phone=260e
   recycle=267b arrow_double_up=23eb busstop$68f date$4c5 flags$38f cat2$408 joy_cat$639 smirk_cat$63c chart$4b9
   mega$4e3 checkered_flag$3c1 accept$251 ideograph_adv^tage$250 congratulations=3297 secret=3299 m=24c2
   city_sunset$306 clapper$3ac clap$44f beers$37b clock830$563 clock8$557 clock1130$566 clock11$55a clock530$560
   clock5$554 clock430$55f clock4$553 clock930$564 clock9$558 clock130$55c clock1$550 clock730$562 clock7$556
   clock630$561 clock6$555 clock1030$565 clock10$559 clock330$55e clock3$552 clock1230$567 clock12$55b clock230$55d
   clock2$551 arrows_clockwise$503 repeat$501 repeat_one$502 mailbox_closed$4ea mailbox$4eb cocktail$378 boom$4a5
   confounded$616 confused$615 rice$35a cow2$404 x=274c cry$622 curry$35b dash$4a8 truck$69a dart$3af
   disappointed_relieved$625 disappointed$61e do_not_litter$6af dog2$415 flipper$42c loop=27bf b^gb^g=203c
   small_red_tri^gle_down$53b arrow_down_small$53d arrow_down=2b07 e__mail$4e7 corn$33d earth_americas$30e
   earth_asia$30f earth_africa$30d bulb$4a1 emoji_modifier_fitzpatrick_type__1__2$3fb
   emoji_modifier_fitzpatrick_type__3$3fc emoji_modifier_fitzpatrick_type__4$3fd emoji_modifier_fitzpatrick_type__5$3fe
   emoji_modifier_fitzpatrick_type__6$3ff end$51a email=2709 interrob^g=2049 expressionless$611 massage$486 yum$60b
   scream$631 kiss<_heart$618 sweat$613 face_with_head__b^dage$915 triumph$624 mask$637 no_good$645 ok_wom^$646
   open_mouth$62e cold_sweat$630 stuck_out_tongue$61b stuck_out_tongue_closed_eyes$61d stuck_out_tongue_wink<_eye$61c
   joy$602 no_mouth$636 s^ta$385 fax$4e0 fearful$628 fish_cake$365 facepunch$44a punch$44a flag_for_cocos__isl^ds=CC
   flag_for_congo____brazzaville=CG flag_for_congo____kinshasa=CD flag_for_czech_republic=CZ flag_for_guinea__bissau=GW
   flag_for_hong_kong=HK flag_for_jap^=JP flag_for_macau=MO flag_for_my^mar=MM flag_for_timor__leste=TL
   flag_for_turkey=TR golf=26f3 fleur__de__lis=269c muscle$4aa flushed$633 fries$35f frog$438 hatched_chick$425
   frown<$626 fuelpump=26fd gem$48e star2$31f mortar_board$393 grimac<$62c smile_cat$638 grinn<$600 grin$601
   heartpulse$497 hamster$439 rais<_h^d$64b headphones$3a7 hear_no_evil$649 cupid$498 gift_heart$49d heart=2764
   exclamation=2757 heavy_exclamation_mark=2757 o=2b55 high_heel$460 bullettrain_side$684 bullettrain_front$685
   high_brightness$506 zap=26a1 knife$52a bee$41d traffic_light$6a5 racehorse$40e coffee=2615 hotspr<s=2668
   hourglass_flow<_s^d=23f3 100$4af hushed$62f capital_abcd$520 abc$524 abcd$521 1234$522 symbols$523 l^tern$3ee
   jack_o_l^tern$383 dolls$38e beginner$530 zero=30,-20e3 one=31,-20e3 ten$51f two=32,-20e3 three=33,-20e3
   four=34,-20e3 five=35,-20e3 six=36,-20e3 seven=37,-20e3 eight=38,-20e3 nine=39,-20e3 couplekiss$48f kiss<_cat$63d
   kiss<$617 kiss<_closed_eyes$61a kiss<_smil<_eyes$619 beetle$41e leaves$343 mag$50d arrow_left=2b05 sob$62d
   low_brightness$505 mahjong$004 couple$46b shoe$45e mens$6b9 iphone$4f1 call<$4f2 money__mouth_face$911 moneybag$4b0
   rice_scene$391 mouse2$401 lips$444 notes$3b6 nail_care$485 ab$18e a$170 b$171 o2$17e park<$17f underage$51e
   non__potable_water$6b1 arrow_upper_right=2197 arrow_upper_left=2196 office$3e2 on$51b book$4d6 unlock$513
   mailbox_with_no_mail$4ed mailbox_with_mail$4ec cd$4bf tada$389 feet$43e walk<$6b6 pencil2=270f pensive$614
   persevere$623 bow$647 raised_h^ds$64c pray$64f computer$4bb pig2$416 h^key$4a9 poop$4a9 shit$4a9 bamboo$38d gun$52b
   black_joker$0cf rotat<_light$6a8 cop$46e stew$372 pout<_cat$63e rage$621 put_litter_in_its_place$6ae rabbit2$407
   fist=270a h^d=270b blue_car$699 apple$34e relieved$60c mag_right$50e arrow_right_hook=21aa sweet_potato$360
   robot$916 rolled__up_newspaper$5de runn<$3c3 boat=26f5 see_no_evil$648 stars$320 cake$370 six_pointed_star$52f
   ski$3bf sleep<$634 sleepy$62a heart_eyes_cat$63b smiley_cat$63a innocent$607 heart_eyes$60d smil<_imp$608 smiley$603
   sweat_smile$605 smile$604 laugh<$606 satisfied$606 blush$60a smirk$60f smok<$6ac soccer=26bd icecream$366 soon$51c
   arrow_lower_right=2198 arrow_lower_left=2199 speak_no_evil$64a mute$507 sound$509 loud_sound$50a shell$41a
   sweat_drops$4a6 u5272$239 u5408$234 u55b6$23a u6307$22f u6708$237 u6709$236 u6e80$235 u7121$21a u7533$238 u7981$232
   u7a7a$233 cl$191 cool$192 free$193 id$194 koko$201 sa$202 new$195 ng$196 ok$197 sos$198 up$199 vs$19a ramen$35c
   partly_sunny=26c5 city_sunrise$307 shirt$455 tshirt$455 tea$375 tv$4fa +1$44d thumbsup$44d __1$44e -1$44e
   thumbsdown$44e tiger2$405 tophat$3a9 top$51d tm=2122 train2$686 trident$531 unamused$612 small_red_tri^gle$53a
   arrow_up_small$53c arrow_up_down=2195 upside__down_face$643 arrow_up=2b06 v=270c vhs$4fc wc$6be oce^$30a wave$44b
   moon$314 scream_cat$640 weary$629 whale2$40b wheelchair=267f point_down$447 grey_exclamation=2755
   white_check_mark=2705 point_left$448 star=2b50 grey_question=2754 point_right$449 relaxed=263a point_up_2$446
   point_up=261d wink$609 wolf$43a d^cers$46f boot$462 s^dal$461 womens$6ba worried$61f gift$381 zipper__mouth_face$910
   ;a$1e6;b$1e7;c$1e8;d$1e9;e$1ea;f$1eb;g$1ec;h$1ed;i$1ee;j$1ef;k$1f0;l$1f1;m$1f2;n$1f3;o$1f4;p$1f5;q$1f6;r$1f7;s$1f8
   ;t$1f9;u$1fa;v$1fb;w$1fc;x$1fd;y$1fe;z$1ff"

end Apidoc.Text.Table
