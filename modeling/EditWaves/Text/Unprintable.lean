/-!
# Characters that quoting spells out

Control, format, private and unassigned characters, separators other than the
space, and characters that extend the one before them.
-/

namespace EditWaves.Text

/-- The characters that a quoted text shows by their number, as gaps: each word is
the distance from the end of the run before, and after a point the length of the
run less one, both in base 36. -/
def unprintableGaps : List String :=
  ["0.v 2n.x c gi.33 8.1 6.3 7 1 k 68.6 4m 12.1 1e.1 3.19 1 1.1 1.1 1.8 r.3 6.g a.a 1 1a.k g",
   "2t.7 1.5 2.1 1.3 w.1 1 u.s 2h.a 1.d 17.8 7.2 o.3 1.8 1.2 1.6 f p.4 1 b.4 v.g 16.1k 1j 1",
   "4.7 4 3.6 a.1 t 2 8.1 2.1 m 7 1.2 4.2 1 2.5 2.1 2 1.c 2 3.3 o.4 1 6.3 2.1 m 7 2 2 2.3 3.n",
   "4 1.6 a.1 3 1.b 1 9 3 m 7 2 5.2 4.7 1 2.2 1.e 2.3 c.6 1.7 2 8.1 2.1 m 7 2 5.2 1.1 1.5 2.1",
   "2.e 2 3.3 i.a 1 6.2 3 4.2 2 1 2.2 2.2 3.2 c.4 1 2.2 3 3.2 1.k l.5 3 8 3 n g.2 1.2 4.i 3.1",
   "1.1 2.3 a.6 a b 3 n a 5.2 2 2 2.1 2 2.g 2 2.3 a 3.d b 3 15.1 1 2.4 3 3 2.3 3 a.3 q.1 2 i.2",
   "o 9 1.1 7.8 2.5 7.6 a.1 3.b 1c 2.a 8.7 d.10 2 1 5 o 1 a 2.8 1.1 5 1.8 a.1 4.v o.1 r 1 1 e",
   "10.h 1.4 1.1 5.1c 8 6 d.10 19.3 1.5 1.1 2.1 p.1 4.2 g.3 d 2.1 6 f 14 1.4 1.1 ah 4.1 7 1",
   "4.1 15 4.1 x 4.1 7 1 4.1 f 1l 4.1 1v.4 t.2 q.5 2e.1 6.1 hs s.2 2h.6 i.2 1.8 j.1 3.8 i.d d",
   "3.e 1g.1 1.6 8 2.a 9.2 a.5 a.5 b.4 a.5 2h.6 5.1 y 1.4 1y.9 v.3 4.1 3.3 2 6.6 1.2 16.1 5.a",
   "18.3 q.5 b.2 1l.1 2.2 1k 1.8 1 2.7 6.c a.5 a.5 e.2d 1c.6 1 5 a.2 r.8 b.2 w.3 2.1 1.2 1k",
   "1.1 3 1.2 2.7 1c.7 2.4 f.2 1o.6 17.1 b.a 1.c 1.6 4 6 3.1 1.4 5c.1r 7q.1 6.1 12.1 6.1 8 1 1",
   "1 v.1 1h f e.1 6 j.1 3 9.g o.7 1b.g 2.1 r d.2 x.1q 3w.3 if.o b.k 1ec.1 w 9k.2 2.4 19 1.4",
   "1.1 1k.6 2.e n.8 7 7 7 7 7 7 7 7.w 2m.x q 2h.b 5y.p c.4 15.5 g 2e.3 2t.4 17 2m 2c.b 1b",
   "mlp.2 1j.8 9o.j 1b.3 1.9 w.1 28.1 6.7 5n.4 2 1 5.n g 3 4 p.1 5.3 a.5 1k.7 1w.9 c.n d 12.7",
   "p.a 2.a u.5 1c 2.3 2.1 g b.3 7 p 15.5 2.1 2.a 3 8 1.1 a.1 w 1f 1.2 2.1 5.1 1 1.n h.1 8.a",
   "6.1 6.1 6.8 7 7 1o.3 39 2 4.2 a.5 8mc.b n.3 1d.6ir a6.1 2y.11 7.b 5.4 1 o 5 1 2 2 3h.f",
   "cd.1 1i.6 1.v g.f a.l z j 4.3 5 3r.3 4d.1 v.2 6.1 6.1 6.1 3.2 7 7.c 2.1 c q j 2 f.1 e.x",
   "3f.4 3.3 19.2 2g d.2 1.1a 19.3m t.2 1d.f r.3 10.8 u.4 12.9 u 11.3 e.15 4e.1 a.5 10.3 10.3",
   "14.7 1g.a c f 7 2 b f 7 2.1u 8n.8 m.9 8.n 6 16 9.1w 6.1 1 18 2.2 1.1 n 20.7 9.1b j 2.4 x.2",
   "r.4 1.1r 1k.3 k.1 1b.e 4 3 t.9 9.6 9.6 1s.v 11.5 c.8 1i.2 t.1 r.4 q.6 4.b 7.27 21.1i 1f.c",
   "1f.6 16.b a.85 v 16.2 1.1 2.25 14.7 m.a 9.l i.3 4.11 s.j n.8 1 1i.e 7.3 u 2.1 1.b 1d.3 2.1",
   "2 4.d p.6 a.8 10.4 1.8 i.7 z 3.a 1g.8 a.3 2 g k.a i s.2 2 1.1 6 2.1q 7 1 4 f b.5 1b 3.c",
   "a.7 2 8.1 2.1 m 7 2 5.2 1 1 4.1 2.1 3.1 1.b 7.4b 1k.7 2.2 1 l 1 3.t 1c 2.5 1 2 1.1 1.1 4.7",
   "a.4l 1b 2.5 4.1 1.1 r.z 1f.7 2 1.1 4.a a.5 d.i 17 1 2.5 1 2.5 a.1h r.4 2.3 1.8 n.54 1b.8",
   "1.1 1.2r 2b.b 8.1 1.1 8 2 o 5 2.3 1 4 3.8 a.1x 8.1 16.7 4 4.q 1.9 14.5 2.3 8.8 1.5 2.2",
   "1a.c 1.1 9.c 21.6 a.6t 9 12.d 1 6.9 t.2 w.o 1.6 1.1 1.22 7 2 12.k 1.8 a.5 6 2 11.3 2 1 1.6",
   "a.8l j.1 4.8 f 10.7 2 1 n.2d 1.e 1e.c pn.2t 33 5.a 5g.217 2r.c ts.g 6.33s g7.6ns ft.6 v",
   "a.3 29 a.5 u.6 1.9 1c.6 f.9 a 7 l.4 j.j3 2j.2s 23.4 1k.a d.1r 4.b 2.d 4qg.7 ye.15 9.6w6 4",
   "7 2 83.e 1.s 3.1 1.d 4.7 b0.1s3 2z.4 d.2 9.6 a.1 1.1 1.3ov 38.1n 6u.9 13.1 1o 1.2 4.k 2.6",
   "u.3 1p.k 1u.2 1.3d k.b k.b 2f.8 p.3q 2d 1z 2.1 1.1 2.1 4 c 1 7 1t 4.1 8 7 s 4 5 1.2 7 9g.1",
   "84.1 fm.1i 4.1d 8 e 7.vn v.5 6.78 1q.41 19.9 7.1 a.3 2.8v u.h 18.3 a.4 1.cv s.3 a.kl 7 4 2",
   "f 5h.1 9.1b 1w.6 1.3 a.3 2.ls 1w.23 1p.5d 4 r 2 1.1 1 a 4 1 1.5 1.3 1 1 1 3 2 1.1 1 1 1 1",
   "1 2 1.1 4 7 4 4 1 a h.4 3 5 h.1f 2.7h 18.3 2s.b f.1 f f 11.9 4u.1j t.c 18.3 9.6 2.d 6.49",
   "rc.3 h.2 d.2 3b.3 2n.5 c.3 1.e c.3 1k.7 a.5 14.7 u.1 2.25 9g.b e.1 d.2 9.6 1a 7.7 e.3 9.6",
   "9.6 43 1j.10 a.sl wyo.v 37e.5 66.1 4g2.d 5rl.2e6 f2.15t 3t7.4 38g.jgwf"]

end EditWaves.Text
