import HealthRules.Unicode.CharSet

/-!
# Script — the writing systems of the code points

Every script has a four letter code, a long name and perhaps an older code. A code point belongs to one
script, and is used in one or more: `Entry.packed` is the set of the first kind, `Entry.usedIn` of the
second, both in packed form (`CharSet.unpack`).
-/

namespace HealthRules.Script

/-- A script: its names, the set of its own code points, and the set of those used with it. -/
structure Entry where
  names : List String
  packed : String
  usedIn : String

/-! ## The scripts -/

def scriptAdlam : Entry where
  names := ["Adlm", "Adlam"]
  packed :=
    "2olc.23 4.9 4.1"
  usedIn :=
    "17j w 55a 2r5 2fge.23 4.9 4.1"

def scriptAhom : Entry where
  names := ["Ahom"]
  packed :=
    "1j40.q 2.e 4.m"
  usedIn :=
    "1j40.q 2.e 4.m"

def scriptAnatolianHieroglyphs : Entry where
  names := ["Hluw", "Anatolian_Hieroglyphs"]
  packed :=
    "1s00.g6"
  usedIn :=
    "1s00.g6"

def scriptArabic : Entry where
  names := ["Arab", "Arabic"]
  packed :=
    "16o.4 1.5 1.d 1.2 1.v 1.9 b.p 1.2z 1.x 28.1b 6o.u 1.1 5.22 1.s 1bv4.36 g.a2 2.27 2.1h
    7 w.f 34.4 1.3q 31f.u 1v.2 1j.3 181s.3 1.q 1.1 1 2 1.9 1.3 1 1 6 4 1 1 1.2 1.1 1 2 1 1
    1 1 1.1 1 2.3 1.6 1.3 1.3 1 1.9 1.g 5.2 1.4 1.g 1g.1"
  usedIn :=
    "16o.4 1.5y 1.x 28.1b 6o.u 1.1 5.22 1.s 4lr 2r5 14i6.36 g.cc 2.1h 7 w.f 34.4 1.3q rn.r
    290.u 1v.2 1j.3 181s.3 1.q 1.1 1 2 1.9 1.3 1 1 6 4 1 1 1.2 1.1 1 2 1 1 1 1 1.1 1 2.3
    1.6 1.3 1.3 1 1.9 1.g 5.2 1.4 1.g 1g.1"

def scriptArmenian : Entry where
  names := ["Armn", "Armenian"]
  packed :=
    "10x.11 2.1d 2.2 1chv.4"
  usedIn :=
    "lk fc.11 2.1d 2.2 1chv.4"

def scriptAvestan : Entry where
  names := ["Avst", "Avestan"]
  packed :=
    "1gqo.1h 3.6"
  usedIn :=
    "53 8zc.1 17m6.1h 3.6"

def scriptBalinese : Entry where
  names := ["Bali", "Balinese"]
  packed :=
    "5c0.24 1.1d"
  usedIn :=
    "5c0.24 1.1d"

def scriptBamum : Entry where
  names := ["Bamu", "Bamum"]
  packed :=
    "www.2f 124o.fs"
  usedIn :=
    "www.2f 124o.fs"

def scriptBassaVah : Entry where
  names := ["Bass", "Bassa_Vah"]
  packed :=
    "1zo0.t 2.5"
  usedIn :=
    "1zo0.t 2.5"

def scriptBatak : Entry where
  names := ["Batk", "Batak"]
  packed :=
    "5hc.1f 8.3"
  usedIn :=
    "5hc.1f 8.3"

def scriptBengali : Entry where
  names := ["Beng", "Bengali"]
  packed :=
    "1vk.3 1.7 2.1 2.l 1.6 1 3.3 2.8 2.1 2.3 8 4.1 1.4 2.o"
  usedIn :=
    "jg 1as.1 h.1 q.3 1.7 2.1 2.l 1.6 1 3.3 2.8 2.1 2.3 8 4.1 1.4 2.o 3pt 1 2.1 1 8 8 2 4
    2.2 rnd"

def scriptBhaiksuki : Entry where
  names := ["Bhks", "Bhaiksuki"]
  packed :=
    "1k3k.8 1.18 1.d a.s"
  usedIn :=
    "1k3k.8 1.18 1.d a.s"

def scriptBopomofo : Entry where
  names := ["Bopo", "Bopomofo"]
  packed :=
    "kq.1 93t.16 34.v"
  usedIn :=
    "jr 1.2 d g.1 8wl.2 4.9 1.c a.3 2 6 5f 9.16 34.v 14ed.1 7u.4"

def scriptBrahmi : Entry where
  names := ["Brah", "Brahmi"]
  packed :=
    "1hq8.25 4.z 9"
  usedIn :=
    "1hq8.25 4.z 9"

def scriptBraille : Entry where
  names := ["Brai", "Braille"]
  packed :=
    "7wg.73"
  usedIn :=
    "7wg.73"

def scriptBuginese : Entry where
  names := ["Bugi", "Buginese"]
  packed :=
    "54w.r 2.1"
  usedIn :=
    "54w.r 2.1 sdr"

def scriptBuhid : Entry where
  names := ["Buhd", "Buhid"]
  packed :=
    "4lc.j"
  usedIn :=
    "4l1.1 9.j"

def scriptCanadianAboriginal : Entry where
  names := ["Cans", "Canadian_Aboriginal"]
  packed :=
    "3y8.hr fk.1x 1ewq.f"
  usedIn :=
    "3y8.hr fk.1x 1ewq.f"

def scriptCarian : Entry where
  names := ["Cari", "Carian"]
  packed :=
    "1f34.1c"
  usedIn :=
    "53 68y 2 2qb 15ym.1c"

def scriptCaucasianAlbanian : Entry where
  names := ["Aghb", "Caucasian_Albanian"]
  packed :=
    "1flc.1f b"
  usedIn :=
    "lg 18 18 1exd.1f b"

def scriptChakma : Entry where
  names := ["Cakm", "Chakma"]
  packed :=
    "1hxc.1g 1.h"
  usedIn :=
    "1ye.9 18w.9 1epi.1g 1.h"

def scriptCham : Entry where
  names := ["Cham"]
  packed :=
    "xkw.1i 9.d 2.9 2.3"
  usedIn :=
    "xkw.1i 9.d 2.9 2.3"

def scriptCherokee : Entry where
  names := ["Cher", "Cherokee"]
  packed :=
    "3vk.2d 2.5 twy.27"
  usedIn :=
    "lc.2 1 6.1 m.1 b.1 38u.2d 2.5 twy.27"

def scriptChorasmian : Entry where
  names := ["Chrs", "Chorasmian"]
  packed :=
    "1ho0.r"
  usedIn :=
    "1ho0.r"

def scriptCommon : Entry where
  names := ["Zyyy", "Common"]
  packed :=
    "0.1s q.5 q.1a 1.e 1.4 n v ch.12 5.4 2.j 38 9 6 1 hp 6 e 3 w 4c ec 3l.1 yh b9.3 82
    167.2 1z.1 5n.1 1 y5 d 7.3 1.5 1.2 2 lh.b 2.2e 1.a 3.a 1.e h.w 1r.11 1.2 2.5 1.q 1.g
    15.2 4.ih m.a l.pr 74.hf 2.v 1.2w e8.2l b6.k 1 1.o f.7 4.3 2j.1 3 2i.1 43.f w.11 9
    1c.1r v.28 1b 2g.4n 534.1r hkw.x 2u.2 4l.9 6s 4g az e.1 g5u.1 5s.9 m.y 1.i 1.3 43 1.v
    q.5 q.a a 19.1 1s.6 1.6 a.4 76.2 4.18 3.8 28.c 1f.18 6c.q 10o4.3 318.6x 6.c3 4c.37
    1o.6t a.12 2.1p 3.g 8.1 7.t 4.1o 5x.j c.j c.2e 9.o 3r.2c 1.1y 1.1 2 2.1 2.3 1.b 1 1.6
    1.1s 1.3 2.7 1.6 1.r 1.3 1.4 1 3.6 1.9f 2.83 2.1d 41d.1v 24.1o jm.17 4.2r c.e 2.e 1.e
    1.10 a.4t 1k.p 1.1 d.17 4.8 7.1 e.5 4a.rb 4.g 3.c 3.3a 4.2m 6.b 4 f.b 4.1j 8.9 6.13
    8.t 2.b 4.1 1q.9f c.d 2.c 3.9 5.1j 7.e 2.a 6.8 7.42 1.2t gvlz u.2n"
  usedIn :=
    "0.1s q.5 q.1a 1.b 1.1 1.4 n v ch.2 1.9 1 3 1.8 1 1.5 5.4 2.j 3i 6 1 hp 5z ec 124 b9.3
    36v.b 2.w 1.u 1.9 1.1 1.6 1.a 3.a 1.e h.w 1r.11 1.2 2.5 1.q 1.g 15.2 4.ih m.a l.pr
    74.hf 2.v 1.2w e8.m 1.n 2.9 1.3 1 1.p bm 3 d d l ep.n v 1d.e c.3 4h.9 5.2n v 534.1r
    hl4.p 2u.2 r4 e.1 gbo.9 m.k 2.b 1.i 1.3 43 1.v q.5 q.5 3j.6 1.6 a.4 b6.c 1f.18 13wj.6x
    6.c3 4c.37 1o.6t a.12 2.1p 3.g 8.1 7.t 4.1o 5x.j c.j c.2e r.6 3r.2c 1.1y 1.1 2 2.1 2.3
    1.b 1 1.6 1.1s 1.3 2.7 1.6 1.r 1.3 1.4 1 3.6 1.9f 2.83 2.1d 41d.1v 24.1o jm.17 4.2r
    c.e 2.e 1.e 1.10 a.4t 1k.p 1.1 d.17 4.8 n.5 4a.rb 4.g 3.c 3.3a 4.2m 6.b 4 f.b 4.1j 8.9
    6.13 8.t 2.b 4.1 1q.9f c.d 2.c 3.9 5.1j 7.e 2.a 6.8 7.42 1.2t gvlz u.2n"

def scriptCoptic : Entry where
  names := ["Copt", "Coptic", "Qaac"]
  packed :=
    "rm.d 80g.37 5.6"
  usedIn :=
    "53 g8 3.1 1 30.1 30.d 80g.37 5.6 7r 1614.r"

def scriptCuneiform : Entry where
  names := ["Xsux", "Cuneiform"]
  packed :=
    "1kw0.pl 2u.32 1.4 b.5f"
  usedIn :=
    "1kw0.pl 2u.32 1.4 b.5f"

def scriptCypriot : Entry where
  names := ["Cprt", "Cypriot"]
  packed :=
    "1g5c.5 2 1.17 1.1 3 2"
  usedIn :=
    "1erk.2 4.18 3.8 1c0.5 2 1.17 1.1 3 2"

def scriptCyproMinoan : Entry where
  names := ["Cpmn", "Cypro_Minoan"]
  packed :=
    "1nyo.2q"
  usedIn :=
    "1erk.1 972.2q"

def scriptCyrillic : Entry where
  names := ["Cyrl", "Cyrillic"]
  packed :=
    "sg.3o 2.4o 4ls.a 4g 24 38n.v nr4.2n ham.1 18n4.1p x"
  usedIn :=
    "jg 1v.2 1 1 1 2 5 6m.8f 4ls.a 4g 24 3j 353.v 1v np8.2n ham.1 18n4.1p x"

def scriptDeseret : Entry where
  names := ["Dsrt", "Deseret"]
  packed :=
    "1fcw.27"
  usedIn :=
    "1fcw.27"

def scriptDevanagari : Entry where
  names := ["Deva", "Devanagari"]
  packed :=
    "1s0.28 4.e 2.p vhc.v mio.9"
  usedIn :=
    "jg 18j.2a 2.16 3tc.12 1.1 s6 qpr.9 4m.v mio.9"

def scriptDivesAkuru : Entry where
  names := ["Diak", "Dives_Akuru"]
  packed :=
    "1ji8.6 2 2.7 1.1 1.t 1.1 2.b 9.9"
  usedIn :=
    "1ji8.6 2 2.7 1.1 1.t 1.1 2.b 9.9"

def scriptDogra : Entry where
  names := ["Dogr", "Dogra"]
  packed :=
    "1jb4.1n"
  usedIn :=
    "1us.b vcw.9 m2u.1n"

def scriptDuployan : Entry where
  names := ["Dupl", "Duployan"]
  packed :=
    "2fpc.2y 5.c 3.8 7.9 2.3"
  usedIn :=
    "53 gf.1 1 o.1 8if 26kj.2y 5.c 3.8 7.9 2.7"

def scriptEgyptianHieroglyphs : Entry where
  names := ["Egyp", "Egyptian_Hieroglyphs"]
  packed :=
    "1o1s.ut a.32y"
  usedIn :=
    "1o1s.ut a.32y"

def scriptElbasan : Entry where
  names := ["Elba", "Elbasan"]
  packed :=
    "1fk0.13"
  usedIn :=
    "53 gd 1eyi.13"

def scriptElymaic : Entry where
  names := ["Elym", "Elymaic"]
  packed :=
    "1hpc.m"
  usedIn :=
    "1hpc.m"

def scriptEthiopic : Entry where
  names := ["Ethi", "Ethiopic"]
  packed :=
    "3k0.20 1.3 2.6 1 1.3 2.14 1.3 2.w 1.3 2.6 1 1.3 2.e 1.1k 1.3 2.1u 2.v 3.p 546.m 9.6
    1.6 1.6 1.6 1.6 1.6 1.6 1.6 opu.5 2.5 2.5 9.6 1.6 1qk1.6 1.3 1.1 1.e"
  usedIn :=
    "lq 2y9.20 1.3 2.6 1 1.3 2.14 1.3 2.w 1.3 2.6 1 1.3 2.e 1.1k 1.3 2.1u 2.v 3.p 546.m 9.6
    1.6 1.6 1.6 1.6 1.6 1.6 1.6 opu.5 2.5 2.5 9.6 1.6 1qk1.6 1.3 1.1 1.e"

def scriptGaray : Entry where
  names := ["Gara", "Garay"]
  packed :=
    "1h6o.11 3.s 8.1"
  usedIn :=
    "170 e 3 1fz4.11 3.s 8.1"

def scriptGeorgian : Entry where
  names := ["Geor", "Georgian"]
  packed :=
    "3a8.11 1 5 2.16 1.3 2a8.16 2.2 37k.11 1 5"
  usedIn :=
    "53 y9 26u.11 1 5 2.1b 2a8.16 2.2 pm 2hx.11 1 5 77"

def scriptGlagolitic : Entry where
  names := ["Glag", "Glagolitic"]
  packed :=
    "8ow.2n 2e1s.6 1.g 2.6 1.1 1.4"
  usedIn :=
    "53 gb 1 am 2 75 29d 31a 2at.2n df nqj 1pxs.6 1.g 2.6 1.1 1.4"

def scriptGothic : Entry where
  names := ["Goth", "Gothic"]
  packed :=
    "1f74.q"
  usedIn :=
    "53 gc.1 2 14 1eke.q"

def scriptGrantha : Entry where
  names := ["Gran", "Grantha"]
  packed :=
    "1ibk.3 1.7 2.1 2.l 1.6 1.1 1.4 2.8 2.1 2.2 2 6 5.6 2.6 3.4"
  usedIn :=
    "1u9.1 h.1 hs.d 3bw 1.1 u.2 3.1 s6 1btb.3 1.7 2.1 2.l 1.6 1.1 1.4 1.9 2.1 2.2 2 6 5.6
    2.6 3.4 2fv.1 1"

def scriptGreek : Entry where
  names := ["Grek", "Greek"]
  packed :=
    "og.3 1.2 2.3 1 4 1 1.2 1 1.j 1.1q e.f 4yu.4 1e.4 4.4 2c 8w.l 2.5 2.11 2.5 2.7 1 1 1
    1.u 2.1g 1.e 1.d 2.5 1.i 2.2 1.8 87 rb2 gyi.26 h 155r.1x"
  usedIn :=
    "53 g8.1 2 1 1 a 1a 2 16.7 2.3 1 4 1 1.2 1 1.j 1.1q e.f 4yu.4 1e.4 4.4 2c.2 8u.l 2.5
    2.11 2.5 2.7 1 1 1 1.u 2.1g 1.e 1.d 2.5 1.i 2.2 1.8 2m 5k rb2 gyi.26 h 155r.1x"

def scriptGujarati : Entry where
  names := ["Gujr", "Gujarati"]
  packed :=
    "22p.2 1.8 1.2 1.l 1.6 1.1 1.4 2.9 1.2 1.2 2 f.3 2.b 7.6"
  usedIn :=
    "1u9.1 h.1 7v.2 1.8 1.2 1.l 1.6 1.1 1.4 2.9 1.2 1.2 2 f.3 2.b 7.6 v1s.9"

def scriptGunjalaGondi : Entry where
  names := ["Gong", "Gunjala_Gondi"]
  packed :=
    "1kdc.5 1.1 1.10 1.1 1.5 7.9"
  usedIn :=
    "53 1po.1 1iii.5 1.1 1.10 1.1 1.5 7.9"

def scriptGurmukhi : Entry where
  names := ["Guru", "Gurmukhi"]
  packed :=
    "1z5.2 1.5 4.1 2.l 1.6 1.1 1.1 1.1 2 1.4 4.1 2.2 3 7.3 1 7.g"
  usedIn :=
    "1u9.1 h.1 4b.2 1.5 4.1 2.l 1.6 1.1 1.1 1.1 2 1.4 4.1 2.2 3 7.3 1 7.g v5l.9"

def scriptGurungKhema : Entry where
  names := ["Gukh", "Gurung_Khema"]
  packed :=
    "1xq8.1l"
  usedIn :=
    "1ut 1vve.1l"

def scriptHan : Entry where
  names := ["Hani", "Han"]
  packed :=
    "96o.p 1.2g c.5x 1b 1 p.8 e.3 qs.533 1s.g73 hkw.a5 2.2x n48.1 c.1 sge.wyn w.37d 6.65
    2.4g1 e.5rk f.h9 1wi.f1 15u.3t6 5.38f"
  usedIn :=
    "53 91k.p 1.2g c.5x q.f 1.2 1.c 1.c 1.c 2 6.8 57 44.f w.11 9 1c.13 1k.1c f.b 1f 2g.o
    a.4 2o.u 1.533 1s.g73 1ds.7 g6w.a5 2.2x ob.1 7u.4 m7w.1 c.1 jn2.h 63i.1 2pa.wyn w.37d
    6.65 2.4g1 e.5rk f.h9 1wi.f1 15u.3t6 5.38f"

def scriptHangul : Entry where
  names := ["Hang", "Hangul"]
  packed :=
    "3cw.73 5ym.1 75.2l 35.u 1t.u nhd.s hv.8mb c.m 4.1c 7tw.u 3.5 2.5 2.5 2.2"
  usedIn :=
    "3cw.73 5xd.2 4.9 1.c e.2 6 5f 1h.2l 35.u 1t.u nhd.s hv.8mb c.m 4.1c 7k9.1 7u.4 1m.u
    3.5 2.5 2.5 2.2"

def scriptHanifiRohingya : Entry where
  names := ["Rohg", "Hanifi_Rohingya"]
  packed :=
    "1h4w.13 8.9"
  usedIn :=
    "170 e 3 w 43 1fsb.13 8.9"

def scriptHanunoo : Entry where
  names := ["Hano", "Hanunoo"]
  packed :=
    "4kg.k"
  usedIn :=
    "4kg.m"

def scriptHatran : Entry where
  names := ["Hatr", "Hatran"]
  packed :=
    "1gbk.i 1.1 5.4"
  usedIn :=
    "1gbk.i 1.1 5.4"

def scriptHebrew : Entry where
  names := ["Hebr", "Hebrew"]
  packed :=
    "13l.1i 8.q 4.5 1cfc.p 1.4 1 1.1 1.1 1.9"
  usedIn :=
    "lj.1 i0.1i 8.q 4.5 1cfc.p 1.4 1 1.1 1.1 1.9"

def scriptHiragana : Entry where
  names := ["Hira", "Hiragana"]
  packed :=
    "9j5.2d 6.2 23q9.7y i t.2 crx"
  usedIn :=
    "9hd.2 4.9 1.c g.5 1 4.1 3.2d 2.7 2i.1 14js.1 7u.4 a 19.1 yu9.7y i t.2 crx"

def scriptImperialAramaic : Entry where
  names := ["Armi", "Imperial_Aramaic"]
  packed :=
    "1g74.l 1.8"
  usedIn :=
    "1g74.l 1.8"

def scriptInherited : Entry where
  names := ["Zinh", "Inherited", "Qaai"]
  packed :=
    "lc.33 7p.1 ck.a q kg.3 3ff.u e9.2 1.c 1.6 4 6 3.1 5i.1r ek.1 5e.w 309.3 2z.1 14kl.f
    g.d r3 6a 38a 1138.19 2.m f4.2 h.7 2.6 u.3 h45u.6n"
  usedIn :=
    "lr 2 1.b 1.1 3.6 2 2.f 1.1 1.h 1.4 1.3 168.1 3ff.u kz.1h 1 1.4 ek.1 5e.v 17o0.f g.d r3
    14hu.19 2.m f4.2 h.7 2.6 u.3 h45u.6n"

def scriptInscriptionalPahlavi : Entry where
  names := ["Phli", "Inscriptional_Pahlavi"]
  packed :=
    "1gtc.i 5.7"
  usedIn :=
    "1gtc.i 5.7"

def scriptInscriptionalParthian : Entry where
  names := ["Prti", "Inscriptional_Parthian"]
  packed :=
    "1gsg.l 2.7"
  usedIn :=
    "1gsg.l 2.7"

def scriptJavanese : Entry where
  names := ["Java", "Javanese"]
  packed :=
    "xhc.25 2.9 4.1"
  usedIn :=
    "xhc.25 1.a 4.1"

def scriptKaithi : Entry where
  names := ["Kthi", "Kaithi"]
  packed :=
    "1hts.1u a"
  usedIn :=
    "1uu.9 79d o3i.9 kli.1u a"

def scriptKannada : Entry where
  names := ["Knda", "Kannada"]
  packed :=
    "2gw.c 1.2 1.m 1.9 1.4 2.8 1.2 1.3 7.1 6.1 1.3 2.9 1.2"
  usedIn :=
    "1u9.1 h.1 m2.c 1.2 1.m 1.9 1.4 2.8 1.2 1.3 7.1 6.1 1.3 2.9 1.2 34s 1.1 6 n 1 ri3.5"

def scriptKatakana : Entry where
  names := ["Kana", "Katakana"]
  packed :=
    "9lt.2h 2.2 6o.f 5s.1a 1.2f 14b2.9 1.18 ytu.3 1.6 1.1 1 7z.2 1e e.3"
  usedIn :=
    "lh t 8v1.2 4.9 1.c g.5 1 4.1 2j.3 3.2n 6o.f 5s.1a 1.2f 1431.1 7u.1q yts.3 1.6 1.1 1
    7z.2 1e e.3"

def scriptKawi : Entry where
  names := ["Kawi"]
  packed :=
    "1kow.g 1.14 3.s"
  usedIn :=
    "1kow.g 1.14 3.s"

def scriptKayahLi : Entry where
  names := ["Kali", "Kayah_Li"]
  packed :=
    "xds.19 1"
  usedIn :=
    "xds.1b"

def scriptKharoshthi : Entry where
  names := ["Khar", "Kharoshthi"]
  packed :=
    "1gjk.3 1.1 5.7 1.2 1.s 2.2 4.9 7.8"
  usedIn :=
    "1gjk.3 1.1 5.7 1.2 1.s 2.2 4.9 7.8"

def scriptKhitanSmallScript : Entry where
  names := ["Kits", "Khitan_Small_Script"]
  packed :=
    "20o4 5cr.d1 15"
  usedIn :=
    "20o4 5cr.d1 15"

def scriptKhmer : Entry where
  names := ["Khmr", "Khmer"]
  packed :=
    "4n4.2l 2.9 6.9 di.v"
  usedIn :=
    "4n4.2l 2.9 6.9 di.v"

def scriptKhojki : Entry where
  names := ["Khoj", "Khojki"]
  packed :=
    "1i4g.h 1.1a"
  usedIn :=
    "25i.9 v28.9 kw6.h 1.1a"

def scriptKhudawadi : Entry where
  names := ["Sind", "Khudawadi"]
  packed :=
    "1i9c.1m 5.9"
  usedIn :=
    "1us.1 vd6.9 l12.1m 5.9"

def scriptKiratRai : Entry where
  names := ["Krai", "Kirat_Rai"]
  packed :=
    "205c.1l"
  usedIn :=
    "205c.1l"

def scriptLao : Entry where
  names := ["Laoo", "Lao"]
  packed :=
    "2v5.1 1 1.4 1.n 1 1.m 2.4 1 1.6 1.9 2.3"
  usedIn :=
    "2v5.1 1 1.4 1.n 1 1.m 2.4 1 1.6 1.9 2.3"

def scriptLatin : Entry where
  names := ["Latn", "Latin"]
  packed :=
    "1t.p 6.p 1b f 5.m 1.u 1.cg 13.4 55n.11 6.1c 5.3 5.c 1.1x 1t.73 a9 d g.c 3x.1 6 r h.14
    253.v o82.2t 3.1u 2.1 1 1.7 l.d mo.16 1.8 1.3 fpy.6 t6.p 6.p 1lx.5 1.15 1.8 16it.u 6.5"
  usedIn :=
    "1t.p 6.p 1b c 2 5.m 1.u 1.cg 3 a 1.2 1 9 1 6.4 r.e 1.1 1 c 2.2 7.1 1.1 12 5 4.c 7p.1
    y2.1 1ig 2dg.11 6.1c 5.3 5.c 1.1x 1l 7.73 8f 1t d g.c 2b 1l.1 6 r h.14 253.v bb nvs.7
    q.2t 3.1u 2.1 1 1.7 l.d 8e e9.16 1.8 1.3 fpy.6 t6.p 6.p 1lx.5 1.15 1.8 16it.u 6.5"

def scriptLepcha : Entry where
  names := ["Lepc", "Lepcha"]
  packed :=
    "5j4.1j 3.e 3.2"
  usedIn :=
    "5j4.1j 3.e 3.2"

def scriptLimbu : Entry where
  names := ["Limb", "Limbu"]
  packed :=
    "4xs.u 1.b 4.b 4 3.b"
  usedIn :=
    "1ut 32y.u 1.b 4.b 4 3.b"

def scriptLinearA : Entry where
  names := ["Lina", "Linear_A"]
  packed :=
    "1fr4.8m 9.l a.7"
  usedIn :=
    "1err.18 y4.8m 9.l a.7"

def scriptLinearB : Entry where
  names := ["Linb", "Linear_B"]
  packed :=
    "1ekg.b 1.p 1.i 1.1 1.e 2.d y.3e"
  usedIn :=
    "1ekg.b 1.p 1.i 1.1 1.e 2.d y.3e 5.2 4.18 3.8"

def scriptLisu : Entry where
  names := ["Lisu"]
  packed :=
    "wk0.1b o8g"
  usedIn :=
    "jg g 8xo.1 n2c.1b o8g"

def scriptLycian : Entry where
  names := ["Lyci", "Lycian"]
  packed :=
    "1f28.s"
  usedIn :=
    "6e2 18o5.s"

def scriptLydian : Entry where
  names := ["Lydi", "Lydian"]
  packed :=
    "1gdc.p 5"
  usedIn :=
    "53 8zd 178u.p 5"

def scriptMahajani : Entry where
  names := ["Mahj", "Mahajani"]
  packed :=
    "1hzk.12"
  usedIn :=
    "53 1po.b vcw.9 kra.12"

def scriptMakasar : Entry where
  names := ["Maka", "Makasar"]
  packed :=
    "1ko0.o"
  usedIn :=
    "1ko0.o"

def scriptMalayalam : Entry where
  names := ["Mlym", "Malayalam"]
  packed :=
    "2kg.c 1.2 1.1e 1.2 1.5 4.f 2.p"
  usedIn :=
    "1u9.1 h.1 pm.c 1.2 1.1e 1.2 1.5 4.f 2.p 316 n ri5.2"

def scriptMandaic : Entry where
  names := ["Mand", "Mandaic"]
  packed :=
    "1mo.r 2"
  usedIn :=
    "18g e7.r 2"

def scriptManichaean : Entry where
  names := ["Mani", "Manichaean"]
  packed :=
    "1gow.12 4.b"
  usedIn :=
    "18g 1fgf.12 4.b"

def scriptMarchen : Entry where
  names := ["Marc", "Marchen"]
  packed :=
    "1k6o.v 2.l 1.d"
  usedIn :=
    "1k6o.v 2.l 1.d"

def scriptMasaramGondi : Entry where
  names := ["Gonm", "Masaram_Gondi"]
  packed :=
    "1kao.6 1.1 1.17 3 1.1 1.8 8.9"
  usedIn :=
    "1us.1 1ifu.6 1.1 1.17 3 1.1 1.8 8.9"

def scriptMedefaidrin : Entry where
  names := ["Medf", "Medefaidrin"]
  packed :=
    "20cg.2i"
  usedIn :=
    "20cg.2i"

def scriptMeeteiMayek : Entry where
  names := ["Mtei", "Meetei_Mayek"]
  packed :=
    "xr4.m 5l.19 2.9"
  usedIn :=
    "xr4.m 5l.19 2.9"

def scriptMendeKikakui : Entry where
  names := ["Mend", "Mende_Kikakui"]
  packed :=
    "2oe8.5g 2.f"
  usedIn :=
    "2oe8.5g 2.f"

def scriptMeroiticCursive : Entry where
  names := ["Merc", "Meroitic_Cursive"]
  packed :=
    "1ggw.n 4.j 2.19"
  usedIn :=
    "1ggw.n 4.j 2.19"

def scriptMeroiticHieroglyphs : Entry where
  names := ["Mero", "Meroitic_Hieroglyphs"]
  packed :=
    "1gg0.v"
  usedIn :=
    "6e5 1a1u.v"

def scriptMiao : Entry where
  names := ["Plrd", "Miao"]
  packed :=
    "20hs.22 4.1k 7.g"
  usedIn :=
    "20hs.22 4.1k 7.g"

def scriptModi : Entry where
  names := ["Modi"]
  packed :=
    "1iww.1w b.9"
  usedIn :=
    "x80.9 lom.1w b.9"

def scriptMongolian : Entry where
  names := ["Mong", "Mongolian"]
  packed :=
    "4qo.1 2 1.j 6.2g 7.16 1e45.c"
  usedIn :=
    "4qo.p 6.2g 7.16 1hg 34h.1 5.3 19hw.c"

def scriptMro : Entry where
  names := ["Mroo", "Mro"]
  packed :=
    "1zk0.u 1.9 4.1"
  usedIn :=
    "1zk0.u 1.9 4.1"

def scriptMultani : Entry where
  names := ["Mult", "Multani"]
  packed :=
    "1i80.6 1 1.3 1.e 1.a"
  usedIn :=
    "21y.9 1g5s.6 1 1.3 1.e 1.a"

def scriptMyanmar : Entry where
  names := ["Mymr", "Myanmar"]
  packed :=
    "35s.4f u9s.u 2p.v le8.j"
  usedIn :=
    "35s.4f u4u 4x.u 2p.v le8.j"

def scriptNabataean : Entry where
  names := ["Nbat", "Nabataean"]
  packed :=
    "1g8w.u 8.8"
  usedIn :=
    "1g8w.u 8.8"

def scriptNagMundari : Entry where
  names := ["Nagm", "Nag_Mundari"]
  packed :=
    "2nrk.15"
  usedIn :=
    "2nrk.15"

def scriptNandinagari : Entry where
  names := ["Nand", "Nandinagari"]
  packed :=
    "1jmo.7 2.19 2.a"
  usedIn :=
    "1us.1 ow.9 35l 8 7 rhx.5 mei.7 2.19 2.a"

def scriptNewTaiLue : Entry where
  names := ["Talu", "New_Tai_Lue"]
  packed :=
    "51c.17 4.p 6.a 3.1"
  usedIn :=
    "51c.17 4.p 6.a 3.1"

def scriptNewa : Entry where
  names := ["Newa"]
  packed :=
    "1iio.2j 1.4"
  usedIn :=
    "1iio.2j 1.4"

def scriptNko : Entry where
  names := ["Nkoo", "Nko"]
  packed :=
    "1j4.1m 2.2"
  usedIn :=
    "170 e 3 bk.1m 2.2 1cfy.1"

def scriptNushu : Entry where
  names := ["Nshu", "Nushu"]
  packed :=
    "20o1 cy6.az"
  usedIn :=
    "20o1 cy6.az"

def scriptNyiakengPuachueHmong : Entry where
  names := ["Hmnp", "Nyiakeng_Puachue_Hmong"]
  packed :=
    "2n0g.18 3.d 2.9 4.1"
  usedIn :=
    "2n0g.18 3.d 2.9 4.1"

def scriptOgham : Entry where
  names := ["Ogam", "Ogham"]
  packed :=
    "4g0.s"
  usedIn :=
    "4g0.s"

def scriptOlChiki : Entry where
  names := ["Olck", "Ol_Chiki"]
  packed :=
    "5lc.1b"
  usedIn :=
    "5lc.1b"

def scriptOlOnal : Entry where
  names := ["Onao", "Ol_Onal"]
  packed :=
    "2nyo.16 4"
  usedIn :=
    "1us.1 2m3u.16 4"

def scriptOldHungarian : Entry where
  names := ["Hung", "Old_Hungarian"]
  packed :=
    "1h1c.1e d.1e 7.5"
  usedIn :=
    "6e2 2 2qb f 17we.1e d.1e 7.5"

def scriptOldItalic : Entry where
  names := ["Ital", "Old_Italic"]
  packed :=
    "1f5s.z 9.2"
  usedIn :=
    "1f5s.z 9.2"

def scriptOldNorthArabian : Entry where
  names := ["Narb", "Old_North_Arabian"]
  packed :=
    "1gn4.v"
  usedIn :=
    "1gn4.v"

def scriptOldPermic : Entry where
  names := ["Perm", "Old_Permic"]
  packed :=
    "1f80.16"
  usedIn :=
    "53 g8 5.2 a a7 1ebw.16"

def scriptOldPersian : Entry where
  names := ["Xpeo", "Old_Persian"]
  packed :=
    "1fa8.z 4.d"
  usedIn :=
    "1fa8.z 4.d"

def scriptOldSogdian : Entry where
  names := ["Sogo", "Old_Sogdian"]
  packed :=
    "1hj4.13"
  usedIn :=
    "1hj4.13"

def scriptOldSouthArabian : Entry where
  names := ["Sarb", "Old_South_Arabian"]
  packed :=
    "1gm8.v"
  usedIn :=
    "1gm8.v"

def scriptOldTurkic : Entry where
  names := ["Orkh", "Old_Turkic"]
  packed :=
    "1gxs.20"
  usedIn :=
    "6e2 2qd 17tb.20"

def scriptOldUyghur : Entry where
  names := ["Ougr", "Old_Uyghur"]
  packed :=
    "1hm8.p"
  usedIn :=
    "18g 1fht vx.p"

def scriptOriya : Entry where
  names := ["Orya", "Oriya"]
  packed :=
    "269.2 1.7 2.1 2.l 1.6 1.1 1.4 2.8 2.1 2.2 7.2 4.1 1.4 2.h"
  usedIn :=
    "1u9.1 h.1 bf.2 1.7 2.1 2.l 1.6 1.1 1.4 2.8 2.1 2.2 7.2 4.1 1.4 2.h 3fm n"

def scriptOsage : Entry where
  names := ["Osge", "Osage"]
  packed :=
    "1fhs.z 4.z"
  usedIn :=
    "ld 2 6 24 1etz.z 4.z"

def scriptOsmanya : Entry where
  names := ["Osma", "Osmanya"]
  packed :=
    "1fgg.t 2.9"
  usedIn :=
    "1fgg.t 2.9"

def scriptPahawhHmong : Entry where
  names := ["Hmng", "Pahawh_Hmong"]
  packed :=
    "1zpc.1x a.9 1.6 1.k 5.i"
  usedIn :=
    "1zpc.1x a.9 1.6 1.k 5.i"

def scriptPalmyrene : Entry where
  names := ["Palm", "Palmyrene"]
  packed :=
    "1g80.v"
  usedIn :=
    "1g80.v"

def scriptPauCinHau : Entry where
  names := ["Pauc", "Pau_Cin_Hau"]
  packed :=
    "1juo.1k"
  usedIn :=
    "1juo.1k"

def scriptPhagsPa : Entry where
  names := ["Phag", "Phags_Pa"]
  packed :=
    "x8g.1j"
  usedIn :=
    "4qq.1 1 1m1 34i nr1.1j"

def scriptPhoenician : Entry where
  names := ["Phnx", "Phoenician"]
  packed :=
    "1gcg.r 3"
  usedIn :=
    "1gcg.r 3"

def scriptPsalterPahlavi : Entry where
  names := ["Phlp", "Psalter_Pahlavi"]
  packed :=
    "1gu8.h 7.3 c.6"
  usedIn :=
    "18g 1flr.h 7.3 c.6"

def scriptRejang : Entry where
  names := ["Rjng", "Rejang"]
  packed :=
    "xf4.z b"
  usedIn :=
    "xf4.z b"

def scriptRunic : Entry where
  names := ["Runr", "Runic"]
  packed :=
    "4gw.22 3.a"
  usedIn :=
    "4gw.2g"

def scriptSamaritan : Entry where
  names := ["Samr", "Samaritan"]
  packed :=
    "1kw.19 2.e"
  usedIn :=
    "1kw.19 2.e 7hu"

def scriptSaurashtra : Entry where
  names := ["Saur", "Saurashtra"]
  packed :=
    "xa8.1x 8.b"
  usedIn :=
    "xa8.1x 8.b"

def scriptSharada : Entry where
  names := ["Shrd", "Sharada"]
  packed :=
    "1i0w.2n"
  usedIn :=
    "1u9 3ut 1 2.1 2 rin.5 2 ksn.2n"

def scriptShavian : Entry where
  names := ["Shaw", "Shavian"]
  packed :=
    "1ff4.1b"
  usedIn :=
    "53 1fa0.1b"

def scriptSiddham : Entry where
  names := ["Sidd", "Siddham"]
  packed :=
    "1itc.1h 2.11"
  usedIn :=
    "1itc.1h 2.11"

def scriptSignWriting : Entry where
  names := ["Sgnw", "SignWriting"]
  packed :=
    "2l8g.i3 f.4 1.e"
  usedIn :=
    "2l8g.i3 f.4 1.e"

def scriptSinhala : Entry where
  names := ["Sinh", "Sinhala"]
  packed :=
    "2o1.2 1.h 3.n 1.8 1 2.6 3 4.5 1 1.7 6.9 2.2 1fcc.j"
  usedIn :=
    "1us.1 t7.2 1.h 3.n 1.8 1 2.6 3 4.5 1 1.7 6.9 2.2 2yl 1cdq.j"

def scriptSogdian : Entry where
  names := ["Sogd", "Sogdian"]
  packed :=
    "1hkg.15"
  usedIn :=
    "18g 1gbz.15"

def scriptSoraSompeng : Entry where
  names := ["Sora", "Sora_Sompeng"]
  packed :=
    "1hw0.o 7.9"
  usedIn :=
    "1hw0.o 7.9"

def scriptSoyombo : Entry where
  names := ["Soyo", "Soyombo"]
  packed :=
    "1jrk.2a"
  usedIn :=
    "1jrk.2a"

def scriptSundanese : Entry where
  names := ["Sund", "Sundanese"]
  packed :=
    "5fk.1r 74.7"
  usedIn :=
    "5fk.1r 74.7"

def scriptSunuwar : Entry where
  names := ["Sunu", "Sunuwar"]
  packed :=
    "1k1s.x e.9"
  usedIn :=
    "lc.1 1 9 2 s 3 1jf2.x e.9"

def scriptSylotiNagri : Entry where
  names := ["Sylo", "Syloti_Nagri"]
  packed :=
    "x6o.18"
  usedIn :=
    "1us.1 3k.9 v80.18"

def scriptSyriac : Entry where
  names := ["Syrc", "Syriac"]
  packed :=
    "1ds.d 1.1n 2.2 7k.a"
  usedIn :=
    "lf.1 2.1 1 l 2.2 7.1 1 kb e.1 2 w a.a q 3z.d 1.1n 2.2 7k.a 499 1"

def scriptTagalog : Entry where
  names := ["Tglg", "Tagalog"]
  packed :=
    "4jk.l 9"
  usedIn :=
    "4jk.l 9 l.1"

def scriptTagbanwa : Entry where
  names := ["Tagb", "Tagbanwa"]
  packed :=
    "4m8.c 1.2 1.1"
  usedIn :=
    "4l1.1 15.c 1.2 1.1"

def scriptTaiLe : Entry where
  names := ["Tale", "Tai_Le"]
  packed :=
    "500.t 2.4"
  usedIn :=
    "lc.1 5.1 3 2lv.9 1s6.t 2.4"

def scriptTaiTham : Entry where
  names := ["Lana", "Tai_Tham"]
  packed :=
    "55s.1q 1.s 2.a 6.9 6.d"
  usedIn :=
    "55s.1q 1.s 2.a 6.9 6.d"

def scriptTaiViet : Entry where
  names := ["Tavt", "Tai_Viet"]
  packed :=
    "xog.1u o.4"
  usedIn :=
    "xog.1u o.4"

def scriptTakri : Entry where
  names := ["Takr", "Takri"]
  packed :=
    "1j0g.1l 6.9"
  usedIn :=
    "1us.1 vd6.9 ls6.1l 6.9"

def scriptTamil : Entry where
  names := ["Taml", "Tamil"]
  packed :=
    "29u.1 1.5 3.2 1.3 3.1 1 1.1 3.1 3.2 3.b 4.4 3.2 1.3 2 6 e.k 1ih1.1d d"
  usedIn :=
    "1u9.1 h.1 f0.1 1.5 3.2 1.3 3.1 1 1.1 3.1 3.2 3.b 4.4 3.2 1.3 2 6 e.k 3bz ro8 ky5 1
    1j.1 2gz.1d d"

def scriptTangsa : Entry where
  names := ["Tnsa", "Tangsa"]
  packed :=
    "1zlc.26 1.9"
  usedIn :=
    "1zlc.26 1.9"

def scriptTangut : Entry where
  names := ["Tang", "Tangut"]
  packed :=
    "20o0 v.4qf 8.lb e8.8"
  usedIn :=
    "9gw.f dr 1qsw v.4qf 8.lb e8.8"

def scriptTelugu : Entry where
  names := ["Telu", "Telugu"]
  packed :=
    "2dc.c 1.2 1.m 1.f 2.8 1.2 1.3 7.1 1.2 2 2.3 2.9 7.8"
  usedIn :=
    "1u9.1 h.1 ii.c 1.2 1.m 1.f 2.8 1.2 1.3 7.1 1.2 2 2.3 2.9 7.8 38a n"

def scriptThaana : Entry where
  names := ["Thaa", "Thaana"]
  packed :=
    "1hc.1d"
  usedIn :=
    "170 e.1 2 1s.9 7q.1d 1cn4 a"

def scriptThai : Entry where
  names := ["Thai"]
  packed :=
    "2rl.1l 5.r"
  usedIn :=
    "jg q 17 19 24v.1l 5.r"

def scriptTibetan : Entry where
  names := ["Tibt", "Tibetan"]
  packed :=
    "2yo.1z 1.z 4.12 1.z 1.e 1.6 4.1"
  usedIn :=
    "2yo.1z 1.z 4.12 1.z 1.e 1.6 4.1 6ct.3"

def scriptTifinagh : Entry where
  names := ["Tfng", "Tifinagh"]
  packed :=
    "8xc.1j 7.1 e"
  usedIn :=
    "le 1 2 1 8bq.1j 7.1 e"

def scriptTirhuta : Entry where
  names := ["Tirh", "Tirhuta"]
  packed :=
    "1im8.1z 8.9"
  usedIn :=
    "1u9.1 h.1 3v0 ri5.9 ldy.1z 8.9"

def scriptTodhri : Entry where
  names := ["Todr", "Todhri"]
  packed :=
    "1fpc.1f"
  usedIn :=
    "ld 2 2 9 1 22 1f1d.1f"

def scriptToto : Entry where
  names := ["Toto"]
  packed :=
    "2nbk.u"
  usedIn :=
    "jg 2ms3.u"

def scriptTuluTigalari : Entry where
  names := ["Tutg", "Tulu_Tigalari"]
  packed :=
    "1if4.9 1 2 1.11 1.9 1 2 1.3 1.9 1.1 8.1"
  usedIn :=
    "2jq.9 35u 1 ri3.5 57 l1q.9 1 2 1.11 1.9 1 2 1.3 1.9 1.1 8.1"

def scriptUgaritic : Entry where
  names := ["Ugar", "Ugaritic"]
  packed :=
    "1f9c.t 1"
  usedIn :=
    "1f9c.t 1"

def scriptVai : Entry where
  names := ["Vaii", "Vai"]
  packed :=
    "wlc.8b"
  usedIn :=
    "wlc.8b"

def scriptVithkuqi : Entry where
  names := ["Vith", "Vithkuqi"]
  packed :=
    "1fn4.a 1.e 1.6 1.1 1.a 1.e 1.6 1.1"
  usedIn :=
    "1fn4.a 1.e 1.6 1.1 1.a 1.e 1.6 1.1"

def scriptWancho : Entry where
  names := ["Wcho", "Wancho"]
  packed :=
    "2ncw.1l 5"
  usedIn :=
    "2ncw.1l 5"

def scriptWarangCiti : Entry where
  names := ["Wara", "Warang_Citi"]
  packed :=
    "1jfk.2a c"
  usedIn :=
    "1jfk.2a c"

def scriptYezidi : Entry where
  names := ["Yezi", "Yezidi"]
  packed :=
    "1hfk.15 1.2 2.1"
  usedIn :=
    "170 e 3 1s.9 1g5y.15 1.2 2.1"

def scriptYi : Entry where
  names := ["Yiii", "Yi"]
  packed :=
    "vls.wc 3.1i"
  usedIn :=
    "9hd.1 5.9 2.7 67 lxg.wc 3.1i hwa.4"

def scriptZanabazarSquare : Entry where
  names := ["Zanb", "Zanabazar_Square"]
  packed :=
    "1jpc.1z"
  usedIn :=
    "1jpc.1z"

/-! ## Table -/

def table : List Entry := [
  scriptAdlam, scriptAhom, scriptAnatolianHieroglyphs, scriptArabic, scriptArmenian, scriptAvestan,
  scriptBalinese, scriptBamum, scriptBassaVah, scriptBatak, scriptBengali, scriptBhaiksuki,
  scriptBopomofo, scriptBrahmi, scriptBraille, scriptBuginese, scriptBuhid,
  scriptCanadianAboriginal, scriptCarian, scriptCaucasianAlbanian, scriptChakma, scriptCham,
  scriptCherokee, scriptChorasmian, scriptCommon, scriptCoptic, scriptCuneiform, scriptCypriot,
  scriptCyproMinoan, scriptCyrillic, scriptDeseret, scriptDevanagari, scriptDivesAkuru,
  scriptDogra, scriptDuployan, scriptEgyptianHieroglyphs, scriptElbasan, scriptElymaic,
  scriptEthiopic, scriptGaray, scriptGeorgian, scriptGlagolitic, scriptGothic, scriptGrantha,
  scriptGreek, scriptGujarati, scriptGunjalaGondi, scriptGurmukhi, scriptGurungKhema, scriptHan,
  scriptHangul, scriptHanifiRohingya, scriptHanunoo, scriptHatran, scriptHebrew, scriptHiragana,
  scriptImperialAramaic, scriptInherited, scriptInscriptionalPahlavi, scriptInscriptionalParthian,
  scriptJavanese, scriptKaithi, scriptKannada, scriptKatakana, scriptKawi, scriptKayahLi,
  scriptKharoshthi, scriptKhitanSmallScript, scriptKhmer, scriptKhojki, scriptKhudawadi,
  scriptKiratRai, scriptLao, scriptLatin, scriptLepcha, scriptLimbu, scriptLinearA, scriptLinearB,
  scriptLisu, scriptLycian, scriptLydian, scriptMahajani, scriptMakasar, scriptMalayalam,
  scriptMandaic, scriptManichaean, scriptMarchen, scriptMasaramGondi, scriptMedefaidrin,
  scriptMeeteiMayek, scriptMendeKikakui, scriptMeroiticCursive, scriptMeroiticHieroglyphs,
  scriptMiao, scriptModi, scriptMongolian, scriptMro, scriptMultani, scriptMyanmar,
  scriptNabataean, scriptNagMundari, scriptNandinagari, scriptNewTaiLue, scriptNewa, scriptNko,
  scriptNushu, scriptNyiakengPuachueHmong, scriptOgham, scriptOlChiki, scriptOlOnal,
  scriptOldHungarian, scriptOldItalic, scriptOldNorthArabian, scriptOldPermic, scriptOldPersian,
  scriptOldSogdian, scriptOldSouthArabian, scriptOldTurkic, scriptOldUyghur, scriptOriya,
  scriptOsage, scriptOsmanya, scriptPahawhHmong, scriptPalmyrene, scriptPauCinHau, scriptPhagsPa,
  scriptPhoenician, scriptPsalterPahlavi, scriptRejang, scriptRunic, scriptSamaritan,
  scriptSaurashtra, scriptSharada, scriptShavian, scriptSiddham, scriptSignWriting, scriptSinhala,
  scriptSogdian, scriptSoraSompeng, scriptSoyombo, scriptSundanese, scriptSunuwar,
  scriptSylotiNagri, scriptSyriac, scriptTagalog, scriptTagbanwa, scriptTaiLe, scriptTaiTham,
  scriptTaiViet, scriptTakri, scriptTamil, scriptTangsa, scriptTangut, scriptTelugu, scriptThaana,
  scriptThai, scriptTibetan, scriptTifinagh, scriptTirhuta, scriptTodhri, scriptToto,
  scriptTuluTigalari, scriptUgaritic, scriptVai, scriptVithkuqi, scriptWancho, scriptWarangCiti,
  scriptYezidi, scriptYi, scriptZanabazarSquare]

end HealthRules.Script
