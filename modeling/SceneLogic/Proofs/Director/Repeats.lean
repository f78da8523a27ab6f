import SceneLogic.Proofs.Director.Routing

/-!
# Which requests the director grants

In each frame the director grants the first of all equal requests, and every request that nests
too deep to be compared. `withoutRepeats` says so of a list of requests, and `claimBySignature`
says it the way it is done with texts: a request is granted unless its text was met before.

`Accounted` ties the frame of the director to the journal. It survives whatever leaves both alone,
the opening of a frame, and the judgement of a request.
-/

namespace SceneLogic

/-! ## Equal requests -/

theorem bits_of_isNaN {f : Float.Model} (h : f.isNaN = true) :
    f.toBits.toBitVec = Float.Model.UnpackedFloat.packedNaN .binary64 := by
  unfold Float.Model.isNaN Float.Model.unpack Float.Model.UnpackedFloat.unpack at h
  dsimp only at h
  by_cases hexponent : @Float.Model.UnpackedFloat.unpackExponent .binary64 f.toBits.toBitVec = -1#11
  · rw [if_pos hexponent] at h
    by_cases hmantissa : @Float.Model.UnpackedFloat.unpackMantissa .binary64 f.toBits.toBitVec = 0#52
    · rw [if_pos hmantissa] at h
      cases h
    · exact f.valid.eq_packedNaN hexponent hmantissa
  · rw [if_neg hexponent] at h
    by_cases hsmall : @Float.Model.UnpackedFloat.unpackExponent .binary64 f.toBits.toBitVec = 0#11
    · rw [if_pos hsmall] at h
      by_cases hmantissa : @Float.Model.UnpackedFloat.unpackMantissa .binary64 f.toBits.toBitVec = 0#52
      · rw [dif_pos hmantissa] at h
        cases h
      · rw [dif_neg hmantissa] at h
        cases h
    · rw [if_neg hsmall] at h
      cases h

/-- There is one NaN only. -/
theorem eq_of_isNaN {x y : Float} (hx : x.isNaN = true) (hy : y.isNaN = true) : x = y := by
  obtain ⟨⟨⟨a⟩, hva⟩⟩ := x
  obtain ⟨⟨⟨b⟩, hvb⟩⟩ := y
  have hab : a = b := (bits_of_isNaN hx).trans (bits_of_isNaN hy).symm
  subst hab
  rfl

/-- Requests are equal if entity, action and parameters are built alike. An integer is no double, a
zero differs from the negative one, there is one NaN, and the order of fields counts. -/
structure ToldApart : Prop where
  request : ∀ r q : Request,
    r = q ↔ r.entity = q.entity ∧ r.action = q.action ∧ r.params = q.params
  number : ∀ (i : Int64) (x : Float), Value.int i ≠ .float x
  zero : Value.float 0.0 ≠ .float (-0.0)
  nan : ∀ x y : Float, x.isNaN = true → y.isNaN = true → Value.float x = .float y
  order : ∀ (k l : String) (v u : Value) (rest : Params), k ≠ l →
    Value.map ((k, v) :: (l, u) :: rest) ≠ .map ((l, u) :: (k, v) :: rest)

theorem toldApart : ToldApart where
  request r q := by
    cases r
    cases q
    simp
  number := nofun
  zero := by
    intro h
    have hbits : (0.0 : Float) = -0.0 := Value.float.inj h
    revert hbits
    decide
  nan x y hx hy := congrArg Value.float (eq_of_isNaN hx hy)
  order k l v u rest hkl h := by
    injection h with h
    injection h with h
    exact hkl (Prod.mk.inj h).1

/-! ## Repeats -/

/-- The requests that were made, the latest first. -/
def requestsOf (asks : List Ask) : List Request :=
  asks.map (·.request)

/-- The requests that were granted, the latest first. -/
def grantedOf (asks : List Ask) : List Request :=
  (asks.filter (·.granted)).map (·.request)

/-- Takes out every request that equals an earlier one, the latest first. One that nests too deep
stays. -/
def withoutRepeats : List Request → List Request
  | [] => []
  | r :: earlier =>
    if r.tooDeep = true ∨ r ∉ earlier then r :: withoutRepeats earlier else withoutRepeats earlier

/-- Grants the requests whose texts are new, the latest first, and gives the texts that are known
then. One without a text is granted, and makes none known. -/
def claimBySignature (sign : Request → Option String) : List Request → List Request × List String
  | [] => ([], [])
  | r :: earlier =>
    let (granted, known) := claimBySignature sign earlier
    match sign r with
    | none => (r :: granted, known)
    | some text => if text ∈ known then (granted, known) else (r :: granted, text :: known)

/-- The texts tell the requests of a list apart, apart from those that nest too deep, which have
none. -/
structure Faithful (sign : Request → Option String) (requests : List Request) : Prop where
  none_iff : ∀ r ∈ requests, sign r = none ↔ r.tooDeep = true
  injective : ∀ r ∈ requests, ∀ q ∈ requests, ∀ text, sign r = some text → sign q = some text →
    r = q

theorem Faithful.tail {sign : Request → Option String} {r : Request} {earlier : List Request}
    (h : Faithful sign (r :: earlier)) : Faithful sign earlier where
  none_iff := fun q hq => h.none_iff q (List.mem_cons_of_mem _ hq)
  injective := fun q hq p hp =>
    h.injective q (List.mem_cons_of_mem _ hq) p (List.mem_cons_of_mem _ hp)

/-- The known texts are those of the requests so far. -/
theorem mem_claimBySignature (sign : Request → Option String) (text : String)
    (requests : List Request) :
    text ∈ (claimBySignature sign requests).2 ↔ ∃ r ∈ requests, sign r = some text := by
  induction requests with
  | nil => simp [claimBySignature]
  | cons r earlier ih =>
    have hearlier : text ∈ (claimBySignature sign earlier).2 →
        ∃ q ∈ r :: earlier, sign q = some text := by
      intro h
      obtain ⟨q, hq, htext⟩ := ih.mp h
      exact ⟨q, List.mem_cons_of_mem _ hq, htext⟩
    simp only [claimBySignature]
    cases hsign : sign r with
    | none =>
      refine ⟨hearlier, fun ⟨q, hq, htext⟩ => ?_⟩
      rcases List.mem_cons.mp hq with rfl | hq
      · rw [hsign] at htext
        cases htext
      · exact ih.mpr ⟨q, hq, htext⟩
    | some t =>
      by_cases ht : t ∈ (claimBySignature sign earlier).2
      · simp only [ht, if_true]
        refine ⟨hearlier, fun ⟨q, hq, htext⟩ => ?_⟩
        rcases List.mem_cons.mp hq with rfl | hq
        · rw [hsign] at htext
          exact Option.some.inj htext ▸ ht
        · exact ih.mpr ⟨q, hq, htext⟩
      · simp [ht, ih, hsign, eq_comm]

theorem claimBySignature_eq {sign : Request → Option String} {requests : List Request}
    (h : Faithful sign requests) :
    (claimBySignature sign requests).1 = withoutRepeats requests := by
  induction requests with
  | nil => rfl
  | cons r earlier ih =>
    have ih := ih h.tail
    have hdeep := h.none_iff r List.mem_cons_self
    simp only [claimBySignature, withoutRepeats]
    cases hsign : sign r with
    | none => rw [if_pos (Or.inl (hdeep.mp hsign)), ← ih]
    | some text =>
      have hshallow : ¬ r.tooDeep = true := fun hd => by
        rw [hdeep.mpr hd] at hsign
        cases hsign
      have hmem : text ∈ (claimBySignature sign earlier).2 ↔ r ∈ earlier := by
        rw [mem_claimBySignature]
        constructor
        · rintro ⟨q, hq, htext⟩
          rw [h.injective r List.mem_cons_self q (List.mem_cons_of_mem _ hq) text hsign htext]
          exact hq
        · exact fun hr => ⟨r, hr, hsign⟩
      by_cases hr : r ∈ earlier
      · simp [hmem.mpr hr, hshallow, hr, ih]
      · simp [hmem, hshallow, hr, ih]

theorem withoutRepeats_subset (requests : List Request) : withoutRepeats requests ⊆ requests := by
  induction requests with
  | nil => exact List.Subset.refl []
  | cons r earlier ih =>
    rw [withoutRepeats]
    split
    · exact List.cons_subset_cons r ih
    · exact List.subset_cons_of_subset r ih

/-- Of requests that can be compared none stays twice. -/
theorem withoutRepeats_nodup {requests : List Request} (h : ∀ r ∈ requests, r.tooDeep = false) :
    (withoutRepeats requests).Nodup := by
  induction requests with
  | nil => exact List.nodup_nil
  | cons r earlier ih =>
    have ih := ih fun q hq => h q (List.mem_cons_of_mem _ hq)
    rw [withoutRepeats]
    split
    · next hfresh =>
      rcases hfresh with hdeep | hnew
      · rw [h r List.mem_cons_self] at hdeep
        cases hdeep
      · exact List.nodup_cons.mpr ⟨fun hmem => hnew (withoutRepeats_subset earlier hmem), ih⟩
    · exact ih

/-! ## Requests that were judged -/

/-- Each request was granted if it nests too deep or equals no earlier one, and only then. -/
def Judged : List Ask → Prop
  | [] => True
  | a :: earlier =>
    (a.granted = true ↔ a.request.tooDeep = true ∨ a.request ∉ requestsOf earlier) ∧
      Judged earlier

namespace Judged

variable {asks : List Ask}

theorem grantedOf_eq (h : Judged asks) : grantedOf asks = withoutRepeats (requestsOf asks) := by
  induction asks with
  | nil => rfl
  | cons a earlier ih =>
    obtain ⟨hgranted, hearlier⟩ := h
    have ih := ih hearlier
    -- Both sides keep the request in the same case.
    by_cases hfresh : a.request.tooDeep = true ∨ a.request ∉ requestsOf earlier
    · have ha := hgranted.mpr hfresh
      simp only [grantedOf, requestsOf, List.map_cons, withoutRepeats, List.filter_cons, ha,
        if_true] at *
      rw [if_pos hfresh, ih]
    · have ha : a.granted = false := by
        rw [← Bool.not_eq_true, hgranted]
        exact hfresh
      simp only [grantedOf, requestsOf, List.map_cons, withoutRepeats, List.filter_cons, ha,
        Bool.false_eq_true, if_false] at *
      rw [if_neg hfresh, ih]

/-- What was requested was granted, at the first time. -/
theorem mem_grantedOf (h : Judged asks) {r : Request} :
    r ∈ grantedOf asks ↔ r ∈ requestsOf asks := by
  rw [h.grantedOf_eq]
  generalize requestsOf asks = requests
  induction requests with
  | nil => rfl
  | cons q earlier ih =>
    rw [withoutRepeats]
    split
    · rw [List.mem_cons, List.mem_cons, ih]
    · next hq =>
      rw [ih, List.mem_cons]
      constructor
      · exact Or.inr
      · rintro (rfl | hmem)
        · exact Decidable.not_not.mp fun hnot => hq (Or.inr hnot)
        · exact hmem

/-- The judgement of a request looks at the earlier ones only. -/
theorem at_request (h : Judged asks) {later earlier : List Ask} {a : Ask}
    (heq : asks = later ++ a :: earlier) :
    a.granted = true ↔ a.request.tooDeep = true ∨ a.request ∉ requestsOf earlier := by
  induction later generalizing asks with
  | nil =>
    subst heq
    exact h.1
  | cons b later ih =>
    subst heq
    exact ih h.2 rfl

end Judged

/-! ## The books of the director -/

/-- The frame has those requests of the present frame that were granted and can be compared, and
the requests of all frames were judged. -/
structure World.Accounted (w : World) : Prop where
  claims : w.claims? = some ((grantedOf w.frameLog.present).filter fun r => !r.tooDeep)
  judged : ∀ frame ∈ w.frameLog.frames, Judged frame

namespace World

variable {w w' : World}

theorem NoFramesYet.accounted (h : w.NoFramesYet) : w.Accounted where
  claims := by
    rw [h.claims, h.log]
    rfl
  judged := by
    rw [h.log]
    intro frame hframe
    rw [List.mem_singleton.mp hframe]
    trivial

theorem Accounted.same (h : w.Accounted) (hs : w.SameFrames w') : w'.Accounted where
  claims := by rw [hs.claims, hs.log, h.claims]
  judged := by
    rw [hs.log]
    exact h.judged

theorem Accounted.openFrame (h : w.Accounted) (now threshold : Float) :
    (w.openFrame now threshold).2.Accounted := by
  obtain ⟨newFrame, w', heq, _, _, ⟨_, hsame⟩ | ⟨_, hclaims, hlog⟩⟩ :=
    openFrame_cases h.claims now threshold
  · rw [heq]
    exact h.same hsame
  · rw [heq]
    refine ⟨by rw [hclaims, hlog]; rfl, ?_⟩
    rw [hlog]
    intro frame hframe
    rcases List.mem_cons.mp hframe with rfl | hframe
    · trivial
    · exact h.judged frame hframe

/-- The frame judges a request by what the journal has of the frame. -/
theorem Accounted.judge (h : w.Accounted) (r : Request) : (w.judge r).2.Accounted := by
  have hpresent : Judged w.frameLog.present := h.judged _ List.mem_cons_self
  have hmem : r.tooDeep = false →
      (r ∈ (grantedOf w.frameLog.present).filter (fun r => !r.tooDeep) ↔
        r ∈ requestsOf w.frameLog.present) := by
    intro hdeep
    rw [List.mem_filter, hpresent.mem_grantedOf]
    simp [hdeep]
  obtain ⟨granted, w', heq, _, _, hlog, hcases⟩ := judge_cases h.claims r
  have hjudged : (granted = true ↔ r.tooDeep = true ∨ r ∉ requestsOf w.frameLog.present) →
      ∀ frame ∈ w'.frameLog.frames, Judged frame := by
    intro hgranted frame hframe
    rw [hlog] at hframe
    rcases List.mem_cons.mp hframe with rfl | hframe
    · exact ⟨hgranted, hpresent⟩
    · exact h.judged frame (List.mem_cons_of_mem _ hframe)
  rw [heq]
  -- The request nests too deep, was claimed before, or is claimed now.
  rcases hcases with ⟨hdeep, rfl, hclaims⟩ | ⟨hdeep, hknown, rfl, hclaims⟩ |
    ⟨hdeep, hnew, rfl, hclaims⟩
  · refine ⟨?_, hjudged (iff_of_true rfl (Or.inl hdeep))⟩
    rw [hclaims, hlog]
    exact congrArg some (List.filter_cons_of_neg (by simp [hdeep])).symm
  · refine ⟨by rw [hclaims, hlog]; rfl, hjudged (iff_of_false nofun ?_)⟩
    rintro (hdeep' | hnew)
    · rw [hdeep] at hdeep'
      cases hdeep'
    · exact hnew ((hmem hdeep).mp hknown)
  · refine ⟨?_, hjudged (iff_of_true rfl (Or.inr (mt (hmem hdeep).mpr hnew)))⟩
    rw [hclaims, hlog]
    exact congrArg some (List.filter_cons_of_pos (by simp [hdeep])).symm

end World

end SceneLogic
