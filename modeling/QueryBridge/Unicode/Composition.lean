/-!
# Composite characters

Rows in the order of code points: a distance in base 36, `P`, and the two characters that
the composite stands for. Composites that normal form C takes apart are absent.
-/

set_option autoImplicit false

namespace QueryBridge.Unicode.Composition

/-- The rows of the composites, in pieces. -/
def rows : List String := [
  "5cP1t.lc 1P1t.ld 1P1t.le 1P1t.lf 1P1t.lk 1P1t.lm 2P1v.mf 1P1x.lc 1P1x.ld 1P1x.le 1P1x.lk ",
  "1P21.lc 1P21.ld 1P21.le 1P21.lk 2P26.lf 1P27.lc 1P27.ld 1P27.le 1P27.lf 1P27.lk 3P2d.lc ",
  "1P2d.ld 1P2d.le 1P2d.lk 1P2h.ld 3P2p.lc 1P2p.ld 1P2p.le 1P2p.lf 1P2p.lk 1P2p.lm 2P2r.mf ",
  "1P2t.lc 1P2t.ld 1P2t.le 1P2t.lk 1P2x.lc 1P2x.ld 1P2x.le 1P2x.lk 2P32.lf 1P33.lc 1P33.ld ",
  "1P33.le 1P33.lf 1P33.lk 3P39.lc 1P39.ld 1P39.le 1P39.lk 1P3d.ld 2P3d.lk 1P1t.lg 1P2p.lg ",
  "1P1t.li 1P2p.li 1P1t.mg 1P2p.mg 1P1v.ld 1P2r.ld 1P1v.le 1P2r.le 1P1v.lj 1P2r.lj 1P1v.lo ",
  "1P2r.lo 1P1w.lo 1P2s.lo 3P1x.lg 1P2t.lg 1P1x.li 1P2t.li 1P1x.lj 1P2t.lj 1P1x.mg 1P2t.mg ",
  "1P1x.lo 1P2t.lo 1P1z.le 1P2v.le 1P1z.li 1P2v.li 1P1z.lj 1P2v.lj 1P1z.mf 1P2v.mf 1P20.le ",
  "1P2w.le 3P21.lf 1P2x.lf 1P21.lg 1P2x.lg 1P21.li 1P2x.li 1P21.mg 1P2x.mg 1P21.lj 4P22.le ",
  "1P2y.le 1P23.mf 1P2z.mf 2P24.ld 1P30.ld 1P24.mf 1P30.mf 1P24.lo 1P30.lo 5P26.ld 1P32.ld ",
  "1P26.mf 1P32.mf 1P26.lo 1P32.lo 4P27.lg 1P33.lg 1P27.li 1P33.li 1P27.ln 1P33.ln 3P2a.ld ",
  "1P36.ld 1P2a.mf 1P36.mf 1P2a.lo 1P36.lo 1P2b.ld 1P37.ld 1P2b.le 1P37.le 1P2b.mf 1P37.mf ",
  "1P2b.lo 1P37.lo 1P2c.mf 1P38.mf 1P2c.lo 1P38.lo 3P2d.lf 1P39.lf 1P2d.lg 1P39.lg 1P2d.li ",
  "1P39.li 1P2d.lm 1P39.lm 1P2d.ln 1P39.ln 1P2d.mg 1P39.mg 1P2f.le 1P3b.le 1P2h.le 1P3d.le ",
  "1P2h.lk 1P2i.ld 1P3e.ld 1P2i.lj 1P3e.lj 1P2i.lo 1P3e.lo yP27.m3 1P33.m3 eP2d.m3 1P39.m3 ",
  "tP1t.lo 1P2p.lo 1P21.lo 1P2x.lo 1P27.lo 1P33.lo 1P2d.lo 1P39.lo 1P64.lg 1P70.lg 1P64.ld ",
  "1P70.ld 1P64.lo 1P70.lo 1P64.lc 1P70.lc 2P5g.lg 1P6c.lg 1Pfa.lg 1Pfb.lg 1P5i.lg 1P6e.lg ",
  "3P1z.lo 1P2v.lo 1P23.lo 1P2z.lo 1P27.mg 1P33.mg 1Pdm.lg 1Pdn.lg 1Pc7.lo 1Pia.lo 1P2y.lo ",
  "4P1z.ld 1P2v.ld 3P26.lc 1P32.lc 1P5h.ld 1P6d.ld 1P5i.ld 1P6e.ld 1P60.ld 1P6w.ld 1P1t.lr ",
  "1P2p.lr 1P1t.lt 1P2p.lt 1P1x.lr 1P2t.lr 1P1x.lt 1P2t.lt 1P21.lr 1P2x.lr 1P21.lt 1P2x.lt ",
  "1P27.lr 1P33.lr 1P27.lt 1P33.lt 1P2a.lr 1P36.lr 1P2a.lt 1P36.lt 1P2d.lr 1P39.lr 1P2d.lt ",
  "1P39.lt 1P2b.me 1P37.me 1P2c.me 1P38.me 3P20.lo 1P2w.lo 7P1t.lj 1P2p.lj 1P1x.mf 1P2t.mf ",
  "1P5y.lg 1P6u.lg 1P5x.lg 1P6t.lg 1P27.lj 1P33.lj 1Pfi.lg 1Pfj.lg 1P2h.lg 1P3d.lg 9eP4o.ld ",
  "1Ppd.ld 2Pph.ld 1Ppj.ld 1Ppl.ld 2Ppr.ld 2Ppx.ld 1Pq1.ld 1Pqy.ld qPpl.lk 1Ppx.lk 1Pq9.ld ",
  "1Pqd.ld 1Pqf.ld 1Pqh.ld 1Pqz.ld qPqh.lk 1Pqt.lk 1Pqn.ld 1Pqt.ld 1Pqx.ld 5Pr6.ld 1Pr6.lk ",
  "18Pt1.lc 1Pt1.lk 2Psz.ld 4Psm.lk 5Pt6.ld 1Pt4.lc 1Ptf.li bPt4.li wPu0.li nPtx.lc 1Ptx.lk ",
  "2Ptv.ld 4Puu.lk 5Pu2.ld 1Pu0.lc 1Pub.li oPvo.lr 1Pvp.lr 22Pt2.li 1Pty.li ePsw.li 1Pts.li ",
  "1Psw.lk 1Pts.lk 3Pt1.li 1Ptx.li 3Pyg.lk 1Pyh.lk 1Pt2.lk 1Pty.lk 1Pt3.lk 1Ptz.lk 3Pt4.lg ",
  "1Pu0.lg 1Pt4.lk 1Pu0.lk 1Pta.lk 1Pu6.lk 3Pyw.lk 1Pyx.lk 1Ptp.lk 1Pul.lk 1Ptf.lg 1Pub.lg ",
  "1Ptf.lk 1Pub.lk 1Ptf.ln 1Pub.ln 1Ptj.lk 1Puf.lk 3Ptn.lk 1Puj.lk 89P17r.18z 1P17r.190 ",
  "1P18o.190 1P17r.191 1P18q.190 4aP1cl.190 2P1c1.190 hP1ci.190 gmP1t4.1to 8P1tc.1to 3P1tf.1to ",
  "47P1xj.1xa 1P1xj.1xz akP287.28m 3P287.27y 1P287.28n 20P2aa.2c7 1iP2bq.2bi 1P2br.2bi ",
  "1P2bq.2c7 3gP2fa.2fq 3cP2in.2j9 7P2iu.2j9 1P2iu.2ja 2P2iu.2iq 1P2iy.2j9 3jP2me.2m6 ",
  "1P2mf.2m6 1P2me.2mv 3yP2qh.2q2 2P2qh.2q7 1P2qk.2q2 1P2qh.2qn g8P36t.372 25cP5c5.5dh ",
  "2P5c7.5dh 2P5c9.5dh 2P5cb.5dh 2P5cd.5dh 4P5ch.5dh 15P5dm.5dh 2P5do.5dh 3P5dq.5dh 1P5dr.5dh ",
  "2P5du.5dh jhP1t.md 1P2p.md 1P1u.lj 1P2q.lj 1P1u.mb 1P2q.mb 1P1u.mp 1P2q.mp 1P5j.ld 1P6f.ld ",
  "1P1w.lj 1P2s.lj 1P1w.mb 1P2s.mb 1P1w.mp 1P2s.mp 1P1w.mf 1P2s.mf 1P1w.ml 1P2s.ml 1P7m.lc ",
  "1P7n.lc 1P7m.ld 1P7n.ld 1P1x.ml 1P2t.ml 1P1x.mo 1P2t.mo 1Pfc.li 1Pfd.li 1P1y.lj 1P2u.lj ",
  "1P1z.lg 1P2v.lg 1P20.lj 1P2w.lj 1P20.mb 1P2w.mb 1P20.lk 1P2w.lk 1P20.mf 1P2w.mf 1P20.mm ",
  "1P2w.mm 1P21.mo 1P2x.mo 1P5r.ld 1P6n.ld 1P23.ld 1P2z.ld 1P23.mb 1P2z.mb 1P23.mp 1P2z.mp ",
  "1P24.mb 1P30.mb 1P5yu.lg 1P5yv.lg 1P24.mp 1P30.mp 1P24.ml 1P30.ml 1P25.ld 1P31.ld 1P25.lj ",
  "1P31.lj 1P25.mb 1P31.mb 1P26.lj 1P32.lj 1P26.mb 1P32.mb 1P26.mp 1P32.mp 1P26.ml 1P32.ml ",
  "1P5x.ld 1P6t.ld 1P5x.lk 1P6t.lk 1P98.lc 1P99.lc 1P98.ld 1P99.ld 1P28.ld 1P34.ld 1P28.lj ",
  "1P34.lj 1P2a.lj 1P36.lj 1P2a.mb 1P36.mb 1P5zu.lg 1P5zv.lg 1P2a.mp 1P36.mp 1P2b.lj 1P37.lj ",
  "1P2b.mb 1P37.mb 1P9m.lj 1P9n.lj 1P9s.lj 1P9t.lj 1P602.lj 1P603.lj 1P2c.lj 1P38.lj 1P2c.mb ",
  "1P38.mb 1P2c.mp 1P38.mp 1P2c.ml 1P38.ml 1P2d.mc 1P39.mc 1P2d.mo 1P39.mo 1P2d.ml 1P39.ml ",
  "1Pa0.ld 1Pa1.ld 1Pa2.lk 1Pa3.lk 1P2e.lf 1P3a.lf 1P2e.mb 1P3a.mb 1P2f.lc 1P3b.lc 1P2f.ld ",
  "1P3b.ld 1P2f.lk 1P3b.lk 1P2f.lj 1P3b.lj 1P2f.mb 1P3b.mb 1P2g.lj 1P3c.lj 1P2g.lk 1P3c.lk ",
  "1P2h.lj 1P3d.lj 1P2i.le 1P3e.le 1P2i.mb 1P3e.mb 1P2i.mp 1P3e.mp 1P2w.mp 1P38.lk 1P3b.lm ",
  "1P3d.lm 2Pan.lj 5P1t.mb 1P2p.mb 1P1t.ll 1P2p.ll 1P5e.ld 1P6a.ld 1P5e.lc 1P6a.lc 1P5e.ll ",
  "1P6a.ll 1P5e.lf 1P6a.lf 1P61s.le 1P61t.le 1P76.ld 1P77.ld 1P76.lc 1P77.lc 1P76.ll 1P77.ll ",
  "1P76.lf 1P77.lf 1P61s.li 1P61t.li 1P1x.mb 1P2t.mb 1P1x.ll 1P2t.ll 1P1x.lf 1P2t.lf 1P5m.ld ",
  "1P6i.ld 1P5m.lc 1P6i.lc 1P5m.ll 1P6i.ll 1P5m.lf 1P6i.lf 1P62g.le 1P62h.le 1P21.ll 1P2x.ll ",
  "1P21.mb 1P2x.mb 1P27.mb 1P33.mb 1P27.ll 1P33.ll 1P5w.ld 1P6s.ld 1P5w.lc 1P6s.lc 1P5w.ll ",
  "1P6s.ll 1P5w.lf 1P6s.lf 1P630.le 1P631.le 1Pbk.ld 1Pbl.ld 1Pbk.lc 1Pbl.lc 1Pbk.ll 1Pbl.ll ",
  "1Pbk.lf 1Pbl.lf 1Pbk.mb 1Pbl.mb 1P2d.mb 1P39.mb 1P2d.ll 1P39.ll 1Pbz.ld 1Pc0.ld 1Pbz.lc ",
  "1Pc0.lc 1Pbz.ll 1Pc0.ll 1Pbz.lf 1Pc0.lf 1Pbz.mb 1Pc0.mb 1P2h.lc 1P3d.lc 1P2h.mb 1P3d.mb ",
  "1P2h.ll 1P3d.ll 1P2h.lf 1P3d.lf 7Pq9.lv 1Pq9.lw 1P64g.lc 1P64h.lc 1P64g.ld 1P64h.ld ",
  "1P64g.n6 1P64h.n6 1Ppd.lv 1Ppd.lw 1P64o.lc 1P64p.lc 1P64o.ld 1P64p.ld 1P64o.n6 1P64p.n6 ",
  "1Pqd.lv 1Pqd.lw 1P64w.lc 1P64x.lc 1P64w.ld 1P64x.ld 3Pph.lv 1Pph.lw 1P654.lc 1P655.lc ",
  "1P654.ld 1P655.ld 3Pqf.lv 1Pqf.lw 1P65c.lc 1P65d.lc 1P65c.ld 1P65d.ld 1P65c.n6 1P65d.n6 ",
  "1Ppj.lv 1Ppj.lw 1P65k.lc 1P65l.lc 1P65k.ld 1P65l.ld 1P65k.n6 1P65l.n6 1Pqh.lv 1Pqh.lw ",
  "1P65s.lc 1P65t.lc 1P65s.ld 1P65t.ld 1P65s.n6 1P65t.n6 1Ppl.lv 1Ppl.lw 1P660.lc 1P661.lc ",
  "1P660.ld 1P661.ld 1P660.n6 1P661.n6 1Pqn.lv 1Pqn.lw 1P668.lc 1P669.lc 1P668.ld 1P669.ld ",
  "3Ppr.lv 1Ppr.lw 1P66g.lc 1P66h.lc 1P66g.ld 1P66h.ld 3Pqt.lv 1Pqt.lw 1P66o.lc 1P66p.lc ",
  "1P66o.ld 1P66p.ld 1P66o.n6 1P66p.n6 2Ppx.lw 2P66x.lc 2P66x.ld 2P66x.n6 1Pqx.lv 1Pqx.lw ",
  "1P674.lc 1P675.lc 1P674.ld 1P675.ld 1P674.n6 1P675.n6 1Pq1.lv 1Pq1.lw 1P67c.lc 1P67d.lc ",
  "1P67c.ld 1P67d.ld 1P67c.n6 1P67d.n6 1Pq9.lc 2Pqd.lc 2Pqf.lc 2Pqh.lc 2Pqn.lc 2Pqt.lc 2Pqx.lc ",
  "4P64g.n9 1P64h.n9 1P64i.n9 1P64j.n9 1P64k.n9 1P64l.n9 1P64m.n9 1P64n.n9 1P64o.n9 1P64p.n9 ",
  "1P64q.n9 1P64r.n9 1P64s.n9 1P64t.n9 1P64u.n9 1P64v.n9 1P65c.n9 1P65d.n9 1P65e.n9 1P65f.n9 ",
  "1P65g.n9 1P65h.n9 1P65i.n9 1P65j.n9 1P65k.n9 1P65l.n9 1P65m.n9 1P65n.n9 1P65o.n9 1P65p.n9 ",
  "1P65q.n9 1P65r.n9 1P674.n9 1P675.n9 1P676.n9 1P677.n9 1P678.n9 1P679.n9 1P67a.n9 1P67b.n9 ",
  "1P67c.n9 1P67d.n9 1P67e.n9 1P67f.n9 1P67g.n9 1P67h.n9 1P67i.n9 1P67j.n9 1Pq9.li 1Pq9.lg ",
  "1P67k.n9 1Pq9.n9 1Pq4.n9 2Pq9.n6 1P69i.n9 1Ppd.li 1Ppd.lg 1Ppd.lc 2Ppd.n9 5P4o.n6 1P67o.n9 ",
  "1Pqf.n9 1Pq6.n9 2Pqf.n6 1P69y.n9 1Pph.lc 2Ppj.lc 2Ppj.n9 1P69r.lc 1P69r.ld 1P69r.n6 1Pqh.li ",
  "1Pqh.lg 1Pqy.lc 4Pqh.n6 1Pqy.n6 1Ppl.li 1Ppl.lg 1Ppl.lc 3P6bi.lc 1P6bi.ld 1P6bi.n6 1Pqt.li ",
  "1Pqt.lg 1Pqz.lc 2Pqp.lv 1Pqp.lw 1Pqt.n6 1Pqz.n6 1Ppx.li 1Ppx.lg 1Ppx.lc 2Ppt.lw 1P4o.lc ",
  "5P67w.n9 1Pqx.n9 1Pr2.n9 2Pqx.n6 1P6ba.n9 1Ppr.lc 2Pq1.lc 2Pq1.n9 biP6mo.mw 1P6mq.mw ",
  "jP6ms.mw vP6og.mw 1P6ok.mw 1P6oi.mw 1hP6pv.mw 5P6q0.mw 3P6q3.mw oP6qr.mw 2P6qt.mw rP6rg.mw ",
  "3P6rn.mw 3P6rp.mw 2P6rs.mw nP1p.mw 2P6sh.mw bP6rx.mw 1P1o.mw 1P1q.mw 1P6sk.mw 1P6sl.mw ",
  "3P6sy.mw 1P6sz.mw 3P6t2.mw 1P6t3.mw 7P6t6.mw 1P6t7.mw 3P6te.mw 1P6tf.mw 3P6ti.mw 1P6tj.mw ",
  "zP6ua.mw 1P6ug.mw 1P6uh.mw 1P6uj.mw 1dP6t8.mw 1P6t9.mw 1P6tt.mw 1P6tu.mw 7P6uq.mw 1P6ur.mw ",
  "1P6us.mw 1P6ut.mw 2n3P9jf.9ll 2P9jh.9ll 2P9jj.9ll 2P9jl.9ll 2P9jn.9ll 2P9jp.9ll 2P9jr.9ll ",
  "2P9jt.9ll 2P9jv.9ll 2P9jx.9ll 2P9jz.9ll 2P9k1.9ll 3P9k4.9ll 2P9k6.9ll 2P9k8.9ll 7P9kf.9ll ",
  "1P9kf.9lm 2P9ki.9ll 1P9ki.9lm 2P9kl.9ll 1P9kl.9lm 2P9ko.9ll 1P9ko.9lm 2P9kr.9ll 1P9kr.9lm ",
  "nP9ja.9ll aP9lp.9ll eP9m3.9ll 2P9m5.9ll 2P9m7.9ll 2P9m9.9ll 2P9mb.9ll 2P9md.9ll 2P9mf.9ll ",
  "2P9mh.9ll 2P9mj.9ll 2P9ml.9ll 2P9mn.9ll 2P9mp.9ll 3P9ms.9ll 2P9mu.9ll 2P9mw.9ll 7P9n3.9ll ",
  "1P9n3.9lm 2P9n6.9ll 1P9n6.9lm 2P9n9.9ll 1P9n9.9lm 2P9nc.9ll 1P9nc.9lm 2P9nf.9ll 1P9nf.9lm ",
  "nP9ly.9ll 3P9nz.9ll 1P9o0.9ll 1P9o1.9ll 1P9o2.9ll 4P9od.9ll 1617P1fpu.lj rP1fq2.lj ",
  "246P1huh.1hve 2P1huj.1hve fP1hut.1hve 3nP1hyp.1hyf 1P1hyq.1hyf f0P1idj.1ida 1P1idj.1idz ",
  "1jP1if6.1ih5 2P1if8.1igr 9P1iff.1igy 3P1ifk.1ih5 1gP1igy.1igy 2P1igy.1igo 1P1igy.1ih5 ",
  "6rP1int.1inu 1P1int.1ink 2P1int.1inx 70P1iuw.1iun 1P1iux.1iun otP1jjp.1jjk e7dP1xr2.1xr2 ",
  "1P1xr2.1xrd 1P1xr2.1xr3 1P1xrd.1xr3 1P1xr2.1xr4 1P1xr5.1xr3 1P1xr6.1xr3 1P1xr5.1xr4 ",
  "2f4P206f.206f 1P206b.206f 1P206h.206f "]

end QueryBridge.Unicode.Composition
