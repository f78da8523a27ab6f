import SceneLogic.Defaults
import SceneLogic.Proofs.Number.Rounding
import SceneLogic.Proofs.Pictures

/-!
# How near a step brings an entity

A step goes along the line to the goal, as far as the speed and the time allow, and does not end at
the goal if that is nearer. So what is left of the distance is the difference of the distance and
the length of the step: an entity whose step is longer than twice the distance ends farther away
than it began.

Coordinates are doubles, so this holds but for rounding. An operation is off by a `share` of what it
should give, and by the `least` double where that is tiny. An entity that takes a step is some units
away from the goal, so that the latter never counts. The estimates are made in the plane of the
complex numbers, in the order in which a step is computed: the length of the displacement, the part
of it that the step is to cover, and the place where it ends.

* `Point.gap_of_step` — what one step leaves of the distance
* `steering_overshoots_beyond_twice_the_distance` — where the two actions bring an entity
* `not_always_nearer` — an entity that a step brings to the far side of its goal
-/

namespace SceneLogic

open Number

namespace Point

variable {a b : Point} {z : ℂ} {k : Float}

/-- The place of a point in the plane of the complex numbers. -/
noncomputable def plane (p : Point) : ℂ :=
  ⟨real p.x, real p.y⟩

/-- The distance between two points. -/
noncomputable def gap (a b : Point) : ℝ :=
  ‖a.plane - b.plane‖

/-- Both coordinates are numbers. -/
def isFinite (p : Point) : Bool :=
  p.x.isFinite && p.y.isFinite

/-- Both coordinates are as near to those of a place as doubles need be. -/
structure Close (p : Point) (z : ℂ) : Prop where
  x : Number.Close p.x z.re
  y : Number.Close p.y z.im

theorem Close.norm_sub_le (h : a.Close z) :
    ‖a.plane - z‖ ≤ 2 * share * ‖z‖ + 2 * least := by
  have hx : |(a.plane - z).re| ≤ share * |z.re| + least := h.x
  have hy : |(a.plane - z).im| ≤ share * |z.im| + least := h.y
  have hre := mul_le_mul_of_nonneg_left (Complex.abs_re_le_norm z) share_pos.le
  have him := mul_le_mul_of_nonneg_left (Complex.abs_im_le_norm z) share_pos.le
  have hsum := Complex.norm_le_abs_re_add_abs_im (a.plane - z)
  linarith

theorem add_close (h : (a + b).isFinite = true) :
    (a.isFinite = true ∧ b.isFinite = true) ∧ (a + b).Close (a.plane + b.plane) := by
  obtain ⟨hx, hy⟩ := Bool.and_eq_true_iff.mp h
  obtain ⟨⟨hax, hbx⟩, hclosex⟩ := Number.add_close hx
  obtain ⟨⟨hay, hby⟩, hclosey⟩ := Number.add_close hy
  exact ⟨⟨Bool.and_eq_true_iff.mpr ⟨hax, hay⟩, Bool.and_eq_true_iff.mpr ⟨hbx, hby⟩⟩,
    hclosex, hclosey⟩

theorem sub_close (h : (a - b).isFinite = true) : (a - b).Close (a.plane - b.plane) := by
  obtain ⟨hx, hy⟩ := Bool.and_eq_true_iff.mp h
  exact ⟨(Number.sub_close hx).2, (Number.sub_close hy).2⟩

theorem scaleBy_close (h : (a.scaleBy k).isFinite = true) :
    (a.isFinite = true ∧ k.isFinite = true) ∧ (a.scaleBy k).Close (real k * a.plane) := by
  obtain ⟨hx, hy⟩ := Bool.and_eq_true_iff.mp h
  obtain ⟨⟨hax, hk⟩, hclosex⟩ := Number.mul_close hx
  obtain ⟨⟨hay, -⟩, hclosey⟩ := Number.mul_close hy
  refine ⟨⟨Bool.and_eq_true_iff.mpr ⟨hax, hay⟩, hk⟩, ?_, ?_⟩
  · rw [Complex.re_ofReal_mul, mul_comm]
    exact hclosex
  · rw [Complex.im_ofReal_mul, mul_comm]
    exact hclosey

/-! ## Length -/

/-- A sum of squares, with a small error in each square and in the sum. -/
theorem square_error {X Y p q c : ℝ} (hX : 0 ≤ X) (hY : 0 ≤ Y) (hp : |p - X| ≤ share * X + least)
    (hq : |q - Y| ≤ share * Y + least) (hc : |c - (p + q)| ≤ share * |p + q| + least) :
    |c - (X + Y)| ≤ 3 * share * (X + Y) + 4 * least := by
  have hshare := share_pos
  have hshare' := share_le
  have hleast := least_pos
  have hp' := abs_le.mp hp
  have hq' := abs_le.mp hq
  have hc' := abs_le.mp hc
  have hsize : |p + q| ≤ (1 + share) * (X + Y) + 2 * least := by
    rw [abs_le]
    constructor <;> nlinarith
  have hround : share * |p + q| ≤ 2 * share * (X + Y) + least := by nlinarith
  rw [abs_le]
  constructor <;> linarith

/-- The root of a sum of squares that is known but for a small error. -/
theorem sqrt_error {c l L : ℝ} (hL : 0 ≤ L) (hsq : |c - L ^ 2| ≤ 3 * share * L ^ 2 + 4 * least)
    (hroot : |l - √c| ≤ share * √c + least) (hl : 5 < l) :
    4 ≤ L ∧ |l - L| ≤ 6 * share * L := by
  have hshare := share_pos
  have hshare' := share_le
  have hleast := least_pos
  have hleast' := least_le
  have hroot' := abs_le.mp hroot
  have hsq' := abs_le.mp hsq
  have hr : 49 / 10 ≤ √c := by nlinarith [Real.sqrt_nonneg c]
  have hc : √c ^ 2 = c := Real.sq_sqrt (Real.sqrt_pos.mp (by linarith)).le
  have hlarge : 4 ≤ L := by nlinarith
  refine ⟨hlarge, ?_⟩
  have hsmall : 4 * least ≤ share * L ^ 2 := by nlinarith
  -- The squares are near, and so are the numbers themselves.
  have hnear : |√c - L| ≤ 4 * share * L := by
    have hsum : 0 < √c + L := by linarith
    have hfactor : |√c - L| * (√c + L) = |c - L ^ 2| := by
      calc |√c - L| * (√c + L) = |√c - L| * |√c + L| := by rw [abs_of_pos hsum]
        _ = |(√c - L) * (√c + L)| := (abs_mul _ _).symm
        _ = |c - L ^ 2| := congrArg abs (by linear_combination hc)
    have hbound : |√c - L| * (√c + L) ≤ 4 * share * L * (√c + L) := by
      rw [hfactor]
      nlinarith
    exact le_of_mul_le_mul_right hbound hsum
  have hnear' := abs_le.mp hnear
  rw [abs_le]
  constructor <;> nlinarith

/-- The length of a displacement that is more than a few units. -/
theorem length_close (h : a.length.isFinite = true)
    (hlong : ¬ a.length ≤ Movement.arrivalDistance) :
    4 ≤ ‖a.plane‖ ∧ a.isFinite = true ∧ 5 < real a.length ∧
      |real a.length - ‖a.plane‖| ≤ 6 * share * ‖a.plane‖ := by
  obtain ⟨hlengthSq, hroot⟩ := Number.sqrt_close h
  obtain ⟨⟨hxx, hyy⟩, hsum⟩ := Number.add_close hlengthSq
  obtain ⟨⟨hx, -⟩, hxsq⟩ := Number.mul_close hxx
  obtain ⟨⟨hy, -⟩, hysq⟩ := Number.mul_close hyy
  have hfive : 5 < real a.length := by
    rw [Movement.arrivalDistance, le_iff_real_le h (by rfl), real_five] at hlong
    exact not_le.mp hlong
  have hnorm : ‖a.plane‖ ^ 2 = real a.x * real a.x + real a.y * real a.y :=
    (Complex.sq_norm _).trans (Complex.normSq_apply _)
  rw [Number.Close, abs_mul_self] at hxsq hysq
  have hsq := square_error (mul_self_nonneg _) (mul_self_nonneg _) hxsq hysq hsum
  rw [← hnorm] at hsq
  rw [Number.Close, abs_of_nonneg (Real.sqrt_nonneg _)] at hroot
  obtain ⟨hlarge, hnear⟩ := sqrt_error (norm_nonneg _) hsq hroot hfive
  exact ⟨hlarge, Bool.and_eq_true_iff.mpr ⟨hx, hy⟩, hfive, hnear⟩

/-! ## One step -/

/-- The part `k` of a distance `G` that a step of the length `S` is to cover, where both are known
but for small errors. -/
theorem factor_error {G l t S k : ℝ} (hG : 1 ≤ G) (hl : 5 < l)
    (hdistance : |l - G| ≤ 10 * share * G) (hstep : |t - S| ≤ share * |S| + least)
    (hk : |k - t / l| ≤ share * |t / l| + least) :
    |k| * G ≤ 4 * |S| + 2 * share * G ∧ |k * G - S| ≤ 43 * share * |S| + 2 * share * G := by
  have hshare := share_pos
  have hshare' := share_le
  have hleast := least_pos
  have hleast' := least_le
  have hpos : 0 < l := by linarith
  have hdistance' := abs_le.mp hdistance
  have hS := abs_nonneg S
  -- First the step as the factor has it.
  have ht : |t| ≤ 2 * |S| + least := by
    have hsum := abs_add_le (t - S) S
    rw [sub_add_cancel] at hsum
    nlinarith
  have hscaled : |k * l - t| ≤ share * |t| + least * l := by
    calc |k * l - t| = |k - t / l| * l := by
          rw [← abs_of_pos hpos, ← abs_mul, abs_of_pos hpos, sub_mul, div_mul_cancel₀ t hpos.ne']
      _ ≤ (share * |t / l| + least) * l := by gcongr
      _ = share * |t| + least * l := by
          rw [add_mul, abs_div, abs_of_pos hpos, mul_assoc, div_mul_cancel₀ _ hpos.ne']
  have hcover : |k * l - S| ≤ 3 * share * |S| + share * G := by
    have hsum := abs_sub_le (k * l) t S
    have hround : share * |t| ≤ 2 * share * |S| + share * least := by nlinarith
    have hsmall : share * least + least * l + least ≤ share * G := by nlinarith
    linarith
  have hfactor : |k| * l ≤ |S| + (3 * share * |S| + share * G) := by
    have hsum := abs_add_le (k * l - S) S
    rw [sub_add_cancel, abs_mul, abs_of_pos hpos] at hsum
    linarith
  have hk' := abs_nonneg k
  have hlong : G ≤ 2 * l := by nlinarith
  have hsize : |k| * G ≤ 4 * |S| + 2 * share * G := by
    have hdouble : |k| * G ≤ |k| * (2 * l) := by gcongr
    nlinarith
  refine ⟨hsize, ?_⟩
  have hdiff : |k * G - k * l| ≤ 10 * share * (|k| * G) := by
    rw [← mul_sub, abs_mul, abs_sub_comm]
    nlinarith
  have hsum := abs_sub_le (k * G) (k * l) S
  nlinarith

/-- The end of a step apart from where the exact step ends, with a small error in each vector that
makes up the step. -/
theorem step_error {P T D M N : ℂ} {k : ℝ} (hlarge : 1 ≤ ‖T - P‖) (hlong : ‖D‖ ≤ 2 * ‖T - P‖)
    (hD : ‖D - (T - P)‖ ≤ 2 * share * ‖T - P‖ + 2 * least)
    (hM : ‖M - k * D‖ ≤ 2 * share * ‖k * D‖ + 2 * least)
    (hN : ‖N - (P + M)‖ ≤ 2 * share * ‖P + M‖ + 2 * least) :
    ‖N - T - ((k - 1 : ℝ) : ℂ) * (T - P)‖ ≤
      13 * share * (|k| * ‖T - P‖) + 2 * share * ‖P‖ + 5 * least := by
  have hshare := share_pos
  have hshare' := share_le
  have hleast := least_pos
  have hleast' := least_le
  set G := ‖T - P‖
  have hk := abs_nonneg k
  have hK : 0 ≤ |k| * G := by positivity
  have htiny : 5 * least ≤ share * G := by nlinarith
  have hkD : ‖k * D‖ ≤ 2 * (|k| * G) := by
    rw [norm_mul, Complex.norm_real, Real.norm_eq_abs]
    nlinarith
  have hround : share * ‖k * D‖ ≤ share * (2 * (|k| * G)) := by gcongr
  have hround' : share * (|k| * G) ≤ (|k| * G) / 10 := by nlinarith
  have hMsize : ‖M‖ ≤ 3 * (|k| * G) + 2 * least := by
    have hsum := norm_add_le (M - k * D) (k * D)
    rw [sub_add_cancel] at hsum
    linarith
  have hPM : share * ‖P + M‖ ≤ share * (‖P‖ + (3 * (|k| * G) + 2 * least)) := by
    have hsum := norm_add_le P M
    gcongr
    linarith
  have hkerror : ‖k * (D - (T - P))‖ ≤ 3 * share * (|k| * G) := by
    rw [norm_mul, Complex.norm_real, Real.norm_eq_abs]
    calc |k| * ‖D - (T - P)‖ ≤ |k| * (3 * share * G) := by
          gcongr
          linarith
      _ = 3 * share * (|k| * G) := by ring
  have hsplit : N - T - ((k - 1 : ℝ) : ℂ) * (T - P) =
      k * (D - (T - P)) + (M - k * D) + (N - (P + M)) := by
    push_cast
    ring
  rw [hsplit]
  have hsum := norm_add₃_le (a := k * (D - (T - P))) (b := M - k * D) (c := N - (P + M))
  nlinarith

/-- What is left of a distance after a step, with a small error in each vector that makes up the
step. -/
theorem place_error {P T D M N : ℂ} {k S : ℝ} (hlarge : 1 ≤ ‖T - P‖) (hlong : ‖D‖ ≤ 2 * ‖T - P‖)
    (hD : ‖D - (T - P)‖ ≤ 2 * share * ‖T - P‖ + 2 * least)
    (hM : ‖M - k * D‖ ≤ 2 * share * ‖k * D‖ + 2 * least)
    (hN : ‖N - (P + M)‖ ≤ 2 * share * ‖P + M‖ + 2 * least)
    (hsize : |k| * ‖T - P‖ ≤ 4 * |S| + 2 * share * ‖T - P‖)
    (hcover : |k * ‖T - P‖ - S| ≤ 43 * share * |S| + 2 * share * ‖T - P‖) :
    abs (‖N - T‖ - |‖T - P‖ - S|) ≤ 128 * share * (‖T - P‖ + |S| + ‖P‖) := by
  have herror := step_error hlarge hlong hD hM hN
  have hshare := share_pos
  have hshare' := share_le
  have hleast := least_pos
  have hleast' := least_le
  set G := ‖T - P‖
  have hS := abs_nonneg S
  have hP := norm_nonneg P
  have htiny : 5 * least ≤ share * G := by nlinarith
  -- The end of the step apart from the errors.
  have hmain : ‖((k - 1 : ℝ) : ℂ) * (T - P)‖ = |G - k * G| := by
    calc ‖((k - 1 : ℝ) : ℂ) * (T - P)‖ = |k - 1| * |G| := by
          rw [norm_mul, Complex.norm_real, Real.norm_eq_abs, abs_norm]
      _ = |G - k * G| := by
          rw [← abs_mul, abs_sub_comm]
          congr 1
          ring
  have hleft := abs_norm_sub_norm_le (N - T) (((k - 1 : ℝ) : ℂ) * (T - P))
  rw [hmain] at hleft
  have hrest := abs_abs_sub_abs_le (G - k * G) (G - S)
  have hsame : |G - k * G - (G - S)| = |k * G - S| := by
    rw [abs_sub_comm]
    congr 1
    ring
  rw [hsame] at hrest
  have hsum := abs_sub_le ‖N - T‖ |G - k * G| |G - S|
  have hscaled : 13 * share * (|k| * G) ≤ 52 * share * |S| + share * G := by nlinarith
  have hshareP := mul_nonneg hshare.le hP
  have hshareS := mul_nonneg hshare.le hS
  linarith

/-- What rounding may take from a distance, or add to it, in a step of a length. -/
noncomputable def slack (start goal : Point) (step : ℝ) : ℝ :=
  128 * share * (start.gap goal + |step| + ‖start.plane‖)

theorem slack_nonneg (start goal : Point) (step : ℝ) : 0 ≤ slack start goal step :=
  mul_nonneg (mul_nonneg (by norm_num) share_pos.le)
    (add_nonneg (add_nonneg (norm_nonneg _) (abs_nonneg _)) (norm_nonneg _))

/-- A step leaves the difference of the distance and the length of the step. -/
theorem gap_of_step {start goal p : Point} {speed dt : Float}
    (hstep : Movement.step? start goal speed dt = some p)
    (hlength : (goal - start).length.isFinite = true) (hp : p.isFinite = true) :
    abs (p.gap goal - |start.gap goal - real speed * real dt|) ≤
      slack start goal (real speed * real dt) := by
  unfold Movement.step? at hstep
  dsimp only at hstep
  split at hstep
  · cases hstep
  · next hlong =>
    cases hstep
    have hshare := share_pos
    have hshare' := share_le
    have hleast := least_pos
    have hleast' := least_le
    -- The displacement and its length.
    obtain ⟨hlarge, hdelta, hfive, hnear⟩ := length_close hlength hlong
    have hD := (sub_close hdelta).norm_sub_le
    set G := ‖goal.plane - start.plane‖
    have hnorm := abs_le.mp ((abs_norm_sub_norm_le _ _).trans hD)
    have hG : 1 ≤ G := by nlinarith
    have htwice : ‖(goal - start).plane‖ ≤ 2 * G := by nlinarith
    have hdistance : |real (goal - start).length - G| ≤ 10 * share * G := by
      have hsum := abs_sub_le (real (goal - start).length) ‖(goal - start).plane‖ G
      have hD' := abs_le.mpr hnorm
      have htwice' := mul_le_mul_of_nonneg_left htwice hshare.le
      have hclose : ‖(goal - start).plane‖ ≤ 11 / 10 * G := by nlinarith
      have hclose' := mul_le_mul_of_nonneg_left hclose hshare.le
      nlinarith
    -- The factor, and what it makes of the displacement.
    obtain ⟨⟨-, hscaled⟩, hN⟩ := add_close hp
    obtain ⟨⟨-, hfactor⟩, hM⟩ := scaleBy_close hscaled
    obtain ⟨hproduct, hk⟩ := Number.div_close hfactor hlength (by linarith)
    obtain ⟨-, ht⟩ := Number.mul_close hproduct
    obtain ⟨hsize, hcover⟩ := factor_error hG hfive hdistance ht hk
    rw [slack, gap, gap, norm_sub_rev start.plane]
    exact place_error hG htwice hD hM.norm_sub_le hN.norm_sub_le hsize hcover

/-- Where the distance is too large for a double, a step ends where it began. -/
theorem plane_of_step {start goal p : Point} {speed dt : Float}
    (hstep : Movement.step? start goal speed dt = some p)
    (hlength : ¬ (goal - start).length.isFinite = true) (hp : p.isFinite = true) :
    p.plane = start.plane := by
  unfold Movement.step? at hstep
  dsimp only at hstep
  split at hstep
  · cases hstep
  · cases hstep
    obtain ⟨⟨-, hscaled⟩, -⟩ := add_close hp
    obtain ⟨⟨hdelta, hfactor⟩, -⟩ := scaleBy_close hscaled
    obtain ⟨hx, hy⟩ := Bool.and_eq_true_iff.mp hdelta
    have hzero := IsZero.div hfactor hlength
    exact Complex.ext (real_add_of_isZero start.x (hzero.mul hx))
      (real_add_of_isZero start.y (hzero.mul hy))

end Point

/-! ## Steering -/

theorem World.positionOf?_place {w : World} {id : EntityId} {start : Point}
    (h : w.positionOf? id = some start) (p : Point) : (w.place id p).positionOf? id = some p := by
  have hsprite : (w.place id p).sprite? id = (w.sprite? id).map ({ · with position := p }) :=
    (sprite?_modifySprite w id _ id).trans (if_pos rfl)
  have hstore : (w.place id p).store.get? id = (w.store.get? id).map (·.moveTo p) :=
    (store_get?_modifyEntity _ id _ id).trans (if_pos rfl)
  unfold positionOf? at h ⊢
  rw [hsprite, hstore]
  cases hdrawn : w.sprite? id with
  | some sprite => rfl
  | none =>
    rw [hdrawn] at h
    obtain ⟨e, he, -⟩ := Option.map_eq_some_iff.mp h
    rw [he]
    rfl

namespace Movement

/-- An action steers for a goal: for the point that its parameters name, or for the place of the
entity that it chases. -/
inductive Steers (w : World) (s : Situation) (params : Params) (goal : Point) : Action → Prop
  | toward : params.number? "x" = some goal.x → params.number? "y" = some goal.y →
      Steers w s params goal moveToward
  | chase : (quarry? w s params).bind w.positionOf? = some goal →
      Steers w s params goal chaseTarget

theorem Steers.run {m : Machine} {s : Situation} {params : Params} {goal : Point} {action : Action}
    (h : Steers m.world s params goal action) (hlive : m.world.isAlive s.entity = true)
    (service : Service) :
    (action s params).run service m =
      (finishStep m.world s goal (m.world.speed s params 100)).run service m := by
  cases h with
  | toward hx hy => simp [moveToward, Script.run, hlive, hx, hy]
  | chase hgoal => simp [chaseTarget, Script.run, hlive, hgoal]

variable {m : Machine} {s : Situation} {params : Params} {start goal p : Point} {action : Action}

/-- Near the goal the entity stays where it is. -/
theorem Steers.run_none (h : Steers m.world s params goal action)
    (hlive : m.world.isAlive s.entity = true) (hstart : m.world.positionOf? s.entity = some start)
    (hstep : step? start goal (m.world.speed s params 100) s.dt = none) (service : Service) :
    (action s params).run service m = some (.ok (), m) := by
  rw [h.run hlive, finishStep, approach, hstart]
  simp only [hstep]
  rfl

theorem Steers.run_some (h : Steers m.world s params goal action)
    (hlive : m.world.isAlive s.entity = true) (hstart : m.world.positionOf? s.entity = some start)
    (hstep : step? start goal (m.world.speed s params 100) s.dt = some p) (service : Service) :
    (action s params).run service m =
      some (.ok (), { m with world := m.world.place s.entity p }) := by
  rw [h.run hlive, finishStep, approach, hstart]
  simp only [hstep]
  rfl

end Movement

/-- Steering ends well, and takes the entity one step along the line to the goal, unless that is
near already. Where the place is not beyond all doubles, the distance that is left differs from the
difference of the distance and the length of the step by no more than rounding, or is the same if
the distance is beyond all doubles. So the entity is farther from the goal afterwards if the step is
longer than twice the distance, and is not, rounding aside, if the step is no longer. -/
theorem steering_overshoots_beyond_twice_the_distance {m : Machine} {s : Situation}
    {params : Params} {start goal : Point} {action : Action}
    (hsteers : Movement.Steers m.world s params goal action)
    (hlive : m.world.isAlive s.entity = true)
    (hstart : m.world.positionOf? s.entity = some start) (service : Service) :
    let speed := m.world.speed s params 100
    let distance := (goal - start).length
    let near := distance ≤ Movement.arrivalDistance
    let step := real speed * real s.dt
    let slack := start.slack goal step
    ∃ w' p, (action s params).run service m = some (.ok (), { m with world := w' }) ∧
      w'.positionOf? s.entity = some p ∧ (near → w' = m.world ∧ p = start) ∧
      (¬ near → w' = m.world.place s.entity p ∧
        Movement.step? start goal speed s.dt = some p) ∧
      (p.isFinite = true →
        (distance.isFinite = true → ¬ near → abs (p.gap goal - |start.gap goal - step|) ≤ slack ∧
          (2 * start.gap goal + slack < step → start.gap goal < p.gap goal)) ∧
        (¬ distance.isFinite = true → p.gap goal = start.gap goal) ∧
        (0 ≤ speed → 0 ≤ s.dt → step ≤ 2 * start.gap goal →
          p.gap goal ≤ start.gap goal + slack)) := by
  intro speed distance near step slack
  have hslack : 0 ≤ slack := Point.slack_nonneg start goal step
  by_cases hnear : near
  · refine ⟨m.world, start, hsteers.run_none hlive hstart (if_pos hnear) service, hstart,
      fun _ => ⟨rfl, rfl⟩, fun h => absurd hnear h,
      fun _ => ⟨fun _ h => absurd hnear h, fun _ => rfl, fun _ _ _ => ?_⟩⟩
    linarith
  · have hsome : Movement.step? start goal speed s.dt = some _ := if_neg hnear
    refine ⟨_, _, hsteers.run_some hlive hstart hsome service,
      World.positionOf?_place hstart _, fun h => absurd h hnear, fun _ => ⟨rfl, hsome⟩,
      fun hp => ?_⟩
    by_cases hlength : distance.isFinite = true
    · have hlaw := Point.gap_of_step hsome hlength hp
      have hlaw' := abs_le.mp hlaw
      refine ⟨fun _ _ => ⟨hlaw, fun hfar => ?_⟩, fun h => absurd hlength h,
        fun hspeed hdt htwice => ?_⟩
      · have hrest := neg_le_abs (start.gap goal - step)
        linarith
      · have hstep : 0 ≤ step := mul_nonneg (real_nonneg hspeed) (real_nonneg hdt)
        have hrest : |start.gap goal - step| ≤ start.gap goal := by
          rw [abs_le]
          constructor <;> linarith
        linarith
    · have hgap := congrArg (‖· - goal.plane‖) (Point.plane_of_step hsome hlength hp)
      exact ⟨fun h => absurd h hlength, fun _ => hgap,
        fun _ _ _ => hgap.le.trans (le_add_of_nonneg_right hslack)⟩

namespace Strides

/-- A hero at the origin. -/
def machine : Machine where
  world := { store := Store.empty.insert { id := ⟨"hero"⟩ } }

/-- One second has passed. -/
def situation : Situation :=
  ⟨⟨"hero"⟩, [("dt", .float 1)], none, none, none⟩

/-- Go to the right so far, as fast. -/
def params (x speed : Float) : Params :=
  [("x", .float x), ("y", .float 0), ("speed", .float speed)]

theorem real_one : real 1 = 1 :=
  (real_of_natural (n := 1) (k := 52) rfl).trans Nat.cast_one

theorem real_ten : real 10 = 10 :=
  (real_of_natural (n := 10) (k := 49) rfl).trans Nat.cast_ofNat

theorem real_hundred : real 100 = 100 :=
  (real_of_natural (n := 100) (k := 46) rfl).trans Nat.cast_ofNat

theorem gap_level (x x' : Float) : Point.gap ⟨x, 0⟩ ⟨x', 0⟩ = |real x - real x'| := by
  have hlevel : Point.plane ⟨x, 0⟩ - Point.plane ⟨x', 0⟩ = ((real x - real x' : ℝ) : ℂ) := by
    apply Complex.ext
    · rw [Complex.sub_re, Complex.ofReal_re]
      rfl
    · rw [Complex.sub_im, Complex.ofReal_im]
      exact sub_eq_zero_of_eq rfl
  rw [Point.gap, hlevel, Complex.norm_real, Real.norm_eq_abs]

end Strides

/-- Ten of a hundred steps bring the hero no farther away. -/
theorem hero_comes_nearer : ∃ w',
    (Movement.moveToward Strides.situation (Strides.params 100 10)).run Service.exhausted
      Strides.machine = some (.ok (), { Strides.machine with world := w' }) ∧
    w'.positionOf? ⟨"hero"⟩ = some ⟨10, 0⟩ ∧
    Point.gap ⟨10, 0⟩ ⟨100, 0⟩ ≤
      Point.gap ⟨0, 0⟩ ⟨100, 0⟩ + Point.slack ⟨0, 0⟩ ⟨100, 0⟩ (real 10 * real 1) := by
  have hsteers : Movement.Steers Strides.machine.world Strides.situation (Strides.params 100 10)
      ⟨100, 0⟩ Movement.moveToward := .toward rfl rfl
  have hstart : Strides.machine.world.positionOf? ⟨"hero"⟩ = some ⟨0, 0⟩ := rfl
  obtain ⟨w', p, hrun, hp, -, hmoves, hlaw⟩ :=
    steering_overshoots_beyond_twice_the_distance (m := Strides.machine) hsteers rfl hstart
      Service.exhausted
  have hfar : ¬ ((⟨100, 0⟩ : Point) - ⟨0, 0⟩).length ≤ Movement.arrivalDistance := by
    decide +kernel
  have hstep : Movement.step? ⟨0, 0⟩ ⟨100, 0⟩ 10 1 = some ⟨10, 0⟩ := by decide +kernel
  obtain rfl : p = ⟨10, 0⟩ := Option.some.inj ((hmoves hfar).2.symm.trans hstep)
  refine ⟨w', hrun, hp, (hlaw (by decide +kernel)).2.2 (by decide +kernel)
    (by decide +kernel) ?_⟩
  change real 10 * real 1 ≤ 2 * Point.gap ⟨0, 0⟩ ⟨100, 0⟩
  rw [Strides.gap_level, Strides.real_ten, Strides.real_one, Strides.real_hundred]
  have hzero : real 0 = 0 := rfl
  rw [hzero]
  norm_num

/-- Steering does not always leave the entity no farther from its goal, even with ten times the
rounding. -/
theorem not_always_nearer : ¬ ∀ (m : Machine) (s : Situation) (params : Params)
    (start goal p : Point) (action : Action) (w' : World) (service : Service),
    Movement.Steers m.world s params goal action → m.world.isAlive s.entity = true →
    m.world.store.contains s.entity = true → m.world.positionOf? s.entity = some start →
    start.isFinite = true → goal.isFinite = true →
    (m.world.speed s params 100).isFinite = true → 0 ≤ m.world.speed s params 100 →
    s.dt.isFinite = true → 0 ≤ s.dt →
    (action s params).run service m = some (.ok (), { m with world := w' }) →
    w'.positionOf? s.entity = some p →
    p.gap goal ≤ start.gap goal +
      10 * start.slack goal (real (m.world.speed s params 100) * real s.dt) := by
  intro h
  have hsteers : Movement.Steers Strides.machine.world Strides.situation (Strides.params 10 100)
      ⟨10, 0⟩ Movement.moveToward := .toward rfl rfl
  have hstep : Movement.step? ⟨0, 0⟩ ⟨10, 0⟩ 100 1 = some ⟨100, 0⟩ := by decide +kernel
  have hfar := h Strides.machine Strides.situation (Strides.params 10 100) ⟨0, 0⟩ ⟨10, 0⟩ ⟨100, 0⟩
    Movement.moveToward _ Service.exhausted hsteers rfl rfl rfl (by decide +kernel)
    (by decide +kernel) (by decide +kernel) (by decide +kernel) (by decide +kernel)
    (by decide +kernel) (hsteers.run_some rfl rfl hstep _) (World.positionOf?_place rfl _)
  change Point.gap ⟨100, 0⟩ ⟨10, 0⟩ ≤ Point.gap ⟨0, 0⟩ ⟨10, 0⟩ +
    10 * Point.slack ⟨0, 0⟩ ⟨10, 0⟩ (real 100 * real 1) at hfar
  have hzero : real 0 = 0 := rfl
  have horigin : Point.plane ⟨0, 0⟩ = 0 := Complex.ext rfl rfl
  rw [Point.slack, Strides.gap_level, Strides.gap_level, horigin, Strides.real_ten,
    Strides.real_one, Strides.real_hundred, hzero] at hfar
  norm_num at hfar
  have hshare := share_le
  linarith

end SceneLogic
