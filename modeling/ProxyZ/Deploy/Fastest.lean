import ProxyZ.Deploy.Routes
import ProxyZ.Go.Duration
import ProxyZ.Go.Scan

/-!
# The automatic change of the route

The function that is given to `SetChangeRoute` goes through the routes and compares their speeds, which are texts of
durations. It takes the slower one of two, and it can compare only durations of a millisecond to a minute: the text of
a shorter or of a longer one is not read (`switch_durationString`).

So it returns the slowest of the routes that can be compared, or the first one where that cannot be, and that is the
fastest of all only if the first route is and the others that can be compared are as fast (`picksFastest_iff`).
-/

namespace ProxyZ.Deploy

open Go

/-- `_switch`: the milliseconds of a duration; `none` is an error. -/
def switch (i : Str) : Option ℚ :=
  if contains i (str "ms") then parseFloat (replaceAll i (str "ms") [])
  else if contains i (str "s") then (parseFloat (replaceAll i (str "s") [])).map (· * 1000)
  else if contains i (str "minute") then (parseFloat (replaceAll i (str "minute") [])).map (· * 1000 * 60)
  else if contains i (str "hour") then (parseFloat (replaceAll i (str "hour") [])).map (· * 1000 * 60 * 60)
  else some 0

/-- The loop of the function: `it` is the route chosen so far. -/
def chooseRoute (it : Option Onevps) (i : Onevps) : Option Onevps :=
  match it with
  | none => some i
  | some it =>
      match switch i.speed, switch it.speed with
      | some fi, some fit => if fit < fi then some i else some it
      | _, _ => some it

/-- The function that is given to `SetChangeRoute`, by the periodic test and by the login. -/
def changeRoute (routes : List Onevps) : Str :=
  match routes.foldl chooseRoute none with
  | some it => it.host
  | none => []

/-- A route as `Test` leaves it. -/
structure Tested (i : Onevps) : Prop where
  positive : 0 < i.connectedQuality
  speed : i.speed = durationString i.connectedQuality

/-- A route whose speed is read: from a millisecond to below a minute. -/
def Measured (i : Onevps) : Prop := 1000000 ≤ i.connectedQuality ∧ i.connectedQuality < 60000000000

instance (i : Onevps) : Decidable (Measured i) := inferInstanceAs (Decidable (_ ∧ _))

/-- A route of the least time. -/
def Fastest (routes : List Onevps) (i : Onevps) : Prop :=
  i ∈ routes ∧ ∀ j ∈ routes, i.connectedQuality ≤ j.connectedQuality

/-- The first of the slowest among the routes that can be compared. -/
def Slowest (routes : List Onevps) (i : Onevps) : Prop :=
  ∃ first rest, routes = first ++ i :: rest ∧ Measured i ∧
    (∀ j ∈ first, Measured j → j.connectedQuality < i.connectedQuality) ∧
    ∀ j ∈ rest, Measured j → j.connectedQuality ≤ i.connectedQuality

/-- **The fastest route is chosen**: the function returns the host of one. -/
def PicksFastest (routes : List Onevps) : Prop := ∃ i, Fastest routes i ∧ changeRoute routes = i.host

/-! ### The texts of durations -/

section Speed

variable {ds : Str} {c : UInt8}

theorem notMem_point (hds : ds.all isDigit) (hdigit : isDigit c = false) (hc : c ≠ 46) : c ∉ point ds := by
  unfold point
  have hmem : c ∉ ds := fun hmem => by
    rw [List.all_eq_true.mp hds c hmem] at hdigit
    cases hdigit
  split_ifs
  · exact List.not_mem_nil
  · rw [List.mem_cons, not_or]
    exact ⟨hc, hmem⟩

/-- The bytes of a decimal number. -/
theorem notMem_decimal (n : Nat) (hds : ds.all isDigit) (hdigit : isDigit c = false) (hc : c ≠ 46) :
    c ∉ itoa n ++ point ds := by
  rw [List.mem_append, not_or]
  exact ⟨notMem_itoa hdigit, notMem_point hds hdigit hc⟩

theorem not_contains_ms {s : Str} (hs : (109 : UInt8) ∉ s) : contains s (str "ms") = false := by
  rw [Bool.eq_false_iff, ne_eq, contains_iff]
  exact fun h => hs (h.subset (by decide))

/-- A text that ends with its only `s`. -/
theorem switch_seconds {t : Str} (hms : contains (t ++ str "s") (str "ms") = false) (hs : (115 : UInt8) ∉ t) :
    switch (t ++ str "s") = (parseFloat t).map (· * 1000) := by
  have hcontains : contains (t ++ str "s") (str "s") = true := by
    rw [show str "s" = [115] from rfl, contains_singleton]
    simp
  have hreplace : replaceAll (t ++ str "s") (str "s") [] = t := by
    have hend := replaceAll_end [] [] hs
    rwa [List.append_nil] at hend
  rw [switch, hms, if_neg Bool.false_ne_true, if_pos hcontains, hreplace]

theorem fmtDecimal_spec (buf : Str) (v prec : Nat) : ∃ ds, ds.all isDigit ∧
    fmtDecimal buf v prec = itoa (v / 10 ^ prec) ++ point ds ++ buf ∧
      decimal ds * 10 ^ prec = v % 10 ^ prec * 10 ^ ds.length := by
  obtain ⟨ds, hall, hfrac, hspell⟩ := fmtFrac_spec buf v prec
  refine ⟨ds, hall, ?_, hspell⟩
  rw [fmtDecimal, hfrac, List.append_assoc]

/-- A short duration, in nanoseconds or microseconds. -/
theorem switch_short {v prec : Nat} (unit : Str) (hunit : unit.head? = some c) (hms : (109 : UInt8) ∉ unit)
    (hs : (115 : UInt8) ∉ unit) (hc : isDigit c = false ∧ c ≠ 46 ∧ c ≠ 101 ∧ c ≠ 69) :
    switch (fmtDecimal (unit ++ str "s") v prec) = none := by
  obtain ⟨ds, hall, htext, -⟩ := fmtDecimal_spec (unit ++ str "s") v prec
  obtain ⟨rest, rfl⟩ : ∃ rest, unit = c :: rest := ⟨unit.tail, (List.cons_head?_tail hunit).symm⟩
  have hm := notMem_decimal (v / 10 ^ prec) hall (show isDigit 109 = false by decide) (by decide)
  have hs' := notMem_decimal (v / 10 ^ prec) hall (show isDigit 115 = false by decide) (by decide)
  rw [htext, ← List.append_assoc, switch_seconds]
  · rw [List.append_assoc, parseFloat_behind _ hall hc]
    rfl
  · refine not_contains_ms ?_
    rw [List.mem_append, List.mem_append, not_or, not_or]
    exact ⟨⟨hm, hms⟩, by decide⟩
  · rw [List.mem_append, not_or]
    exact ⟨hs', hs⟩

theorem switch_ms (v : Nat) : switch (fmtDecimal (str "ms") v 6) = some ((v : ℚ) / 1000000) := by
  obtain ⟨ds, hall, htext, hspell⟩ := fmtDecimal_spec (str "ms") v 6
  have hm := notMem_decimal (v / 10 ^ 6) hall (show isDigit 109 = false by decide) (by decide)
  have hcontains : contains (itoa (v / 10 ^ 6) ++ point ds ++ str "ms") (str "ms") = true :=
    contains_iff.mpr (List.suffix_append _ _).isInfix
  have hreplace := replaceAll_end (str "s") [] hm
  rw [List.append_nil] at hreplace
  rw [htext, switch, if_pos hcontains]
  show parseFloat (replaceAll (_ ++ 109 :: str "s") (109 :: str "s") []) = _
  rw [hreplace, parseFloat_decimal hall hspell]
  norm_num

theorem switch_s (v : Nat) : switch (fmtDecimal (str "s") v 9) = some ((v : ℚ) / 1000000) := by
  obtain ⟨ds, hall, htext, hspell⟩ := fmtDecimal_spec (str "s") v 9
  have hm := notMem_decimal (v / 10 ^ 9) hall (show isDigit 109 = false by decide) (by decide)
  have hs := notMem_decimal (v / 10 ^ 9) hall (show isDigit 115 = false by decide) (by decide)
  rw [htext, switch_seconds _ hs, parseFloat_decimal hall hspell, Option.map_some, Option.some.injEq]
  · ring
  · refine not_contains_ms ?_
    rw [List.mem_append, not_or]
    exact ⟨hm, by decide⟩

/-- The only `m` of the text has something else than `s` behind it. -/
theorem not_contains_ms_of {p q : Str} (hp : (109 : UInt8) ∉ p) (hq : (109 : UInt8) ∉ q) (hhead : q.head? ≠ some 115) :
    contains (p ++ 109 :: q) (str "ms") = false := by
  rw [Bool.eq_false_iff, ne_eq, contains_iff]
  rintro ⟨a, b, heq⟩
  rw [List.append_assoc] at heq
  obtain ⟨-, -, rfl⟩ := (List.append_cons_inj_of_notMem hp hq).mp heq.symm
  exact hhead rfl

/-- The text of minutes and seconds, behind hours or not. -/
theorem switch_minutes {p : Str} (hm : (109 : UInt8) ∉ p) (hs : (115 : UInt8) ∉ p) (n : Nat) (hds : ds.all isDigit) :
    switch (p ++ 109 :: (itoa n ++ point ds) ++ str "s") =
      (parseFloat (p ++ 109 :: (itoa n ++ point ds))).map (· * 1000) := by
  apply switch_seconds
  · rw [List.append_assoc, List.cons_append]
    refine not_contains_ms_of hm ?_ ?_
    · rw [List.mem_append, not_or]
      exact ⟨notMem_decimal n hds (by decide) (by decide), by decide⟩
    · obtain ⟨e, more, hitoa⟩ := List.exists_cons_of_ne_nil (itoa_ne_nil n)
      have he : e ∈ itoa n := hitoa ▸ List.mem_cons_self
      rw [hitoa]
      intro h
      cases h
      exact notMem_itoa (by decide) he
  · rw [List.mem_append, List.mem_cons, not_or, not_or]
    exact ⟨hs, by decide, notMem_decimal n hds (by decide) (by decide)⟩

/-- A duration of a minute or more. -/
theorem switch_long {d : Int} (hd : 60000000000 ≤ d) : switch (durationString d) = none := by
  obtain ⟨ds, hall, hfrac, -⟩ := fmtFrac_spec (str "s") d.natAbs 9
  set u := d.natAbs / 10 ^ 9 with hu
  have hmin : 0 < u / 60 := by omega
  have htext : durationString d =
      (if 0 < u / 60 / 60 then itoa (u / 60 / 60) ++ str "h" else []) ++ itoa (u / 60 % 60) ++
        109 :: (itoa (u % 60) ++ point ds) ++ str "s" := by
    rw [durationString_seconds (by omega) hu, hfrac, if_pos hmin]
    simp [str]
  rw [htext]
  split_ifs with hhour
  · have hno : ∀ e, isDigit e = false → e ≠ 104 → e ∉ itoa (u / 60 / 60) ++ str "h" ++ itoa (u / 60 % 60) := by
      intro e hdigit hh
      simp only [List.mem_append, notMem_itoa hdigit, show str "h" = [104] from rfl, List.mem_singleton, hh, or_self,
        not_false_eq_true]
    have hbehind : itoa (u / 60 / 60) ++ str "h" ++ itoa (u / 60 % 60) ++ 109 :: (itoa (u % 60) ++ point ds) =
        itoa (u / 60 / 60) ++ (point [] ++ 104 :: (itoa (u / 60 % 60) ++ 109 :: (itoa (u % 60) ++ point ds))) := by
      simp [str, point]
    rw [switch_minutes (hno 109 (by decide) (by decide)) (hno 115 (by decide) (by decide)) _ hall, hbehind,
      parseFloat_behind (u / 60 / 60) rfl (by decide)]
    rfl
  · have hno : ∀ e, isDigit e = false → e ∉ itoa (u / 60 % 60) := fun e hdigit => notMem_itoa hdigit
    have hbehind : itoa (u / 60 % 60) ++ 109 :: (itoa (u % 60) ++ point ds) =
        itoa (u / 60 % 60) ++ (point [] ++ 109 :: (itoa (u % 60) ++ point ds)) := rfl
    rw [List.nil_append, switch_minutes (hno 109 (by decide)) (hno 115 (by decide)) _ hall, hbehind,
      parseFloat_behind (u / 60 % 60) rfl (by decide)]
    rfl

/-- **The durations that are read** are those from a millisecond to below a minute. -/
theorem switch_durationString {d : Int} (hd : 0 < d) :
    switch (durationString d) = if 1000000 ≤ d ∧ d < 60000000000 then some ((d : ℚ) / 1000000) else none := by
  have hcast : ((d.natAbs : ℕ) : ℚ) = (d : ℚ) := by
    rw [Nat.cast_natAbs, abs_of_pos hd]
  by_cases hlong : 60000000000 ≤ d
  · rw [switch_long hlong, if_neg (by omega)]
  by_cases hsec : d.natAbs < 1000000000
  · unfold durationString
    dsimp only
    rw [if_neg (show ¬d < 0 by omega), if_pos hsec, if_neg (show ¬d.natAbs = 0 by omega)]
    split_ifs with hns hms hrange hrange
    · omega
    · exact switch_short (str "n") rfl (by decide) (by decide) (by decide)
    · omega
    · exact switch_short [0xC2, 0xB5] rfl (by decide) (by decide) (by decide)
    · rw [switch_ms, hcast]
    · omega
  · have hmin : ¬0 < d.natAbs / 10 ^ 9 / 60 := by omega
    have hwhole : d.natAbs / 10 ^ 9 % 60 = d.natAbs / 10 ^ 9 := by omega
    obtain ⟨ds, -, hfrac, -⟩ := fmtFrac_spec (str "s") d.natAbs 9
    rw [durationString_seconds (by omega) rfl, if_neg hmin, hwhole, if_pos (by omega), ← hcast, ← switch_s, fmtDecimal,
      hfrac]
    rfl

end Speed

/-! ### The choice -/

section Choice

variable {i j : Onevps} {rest routes : List Onevps}

theorem foldl_chooseRoute (it : Onevps) (routes : List Onevps) :
    routes.foldl chooseRoute (some it) = some (routes.foldl (keepGreater fun i => switch i.speed) it) := by
  induction routes generalizing it with
  | nil => rfl
  | cons i routes ih =>
    have hstep : chooseRoute (some it) i = some (keepGreater (fun i => switch i.speed) it i) := by
      unfold chooseRoute keepGreater
      dsimp only
      cases switch i.speed with
      | none => rfl
      | some fi =>
        cases switch it.speed with
        | none => rfl
        | some fit => exact (apply_ite some _ _ _).symm
    rw [List.foldl_cons, hstep, ih, List.foldl_cons]

theorem changeRoute_cons (i : Onevps) (rest : List Onevps) :
    changeRoute (i :: rest) = (rest.foldl (keepGreater fun i => switch i.speed) i).host := by
  have hfirst : chooseRoute none i = some i := rfl
  rw [changeRoute, List.foldl_cons, hfirst, foldl_chooseRoute]

theorem Tested.switch_speed (h : Tested i) :
    switch i.speed = if Measured i then some ((i.connectedQuality : ℚ) / 1000000) else none := by
  rw [h.speed, switch_durationString h.positive]
  rfl

theorem Tested.switch_le_iff (hi : Tested i) {a : ℚ} (ha : switch i.speed = some a) :
    (j.connectedQuality : ℚ) / 1000000 ≤ a ↔ j.connectedQuality ≤ i.connectedQuality := by
  rw [hi.switch_speed] at ha
  split_ifs at ha
  obtain rfl := Option.some.inj ha
  rw [div_le_div_iff_of_pos_right (by norm_num), Int.cast_le]

/-- What the loop ends with, from a route that can be compared. -/
theorem slowest_foldl (htested : ∀ j ∈ i :: rest, Tested j) (hi : Measured i) :
    Slowest (i :: rest) (rest.foldl (keepGreater fun i => switch i.speed) i) := by
  have hkey : switch i.speed = some ((i.connectedQuality : ℚ) / 1000000) := by
    rw [(htested i List.mem_cons_self).switch_speed, if_pos hi]
  obtain ⟨first, y, more, a, hsplit, hfold, hy, hfirst, hmore⟩ :=
    foldl_keepGreater_some (fun i : Onevps => switch i.speed) hkey rest
  have hmem : ∀ z, z = y ∨ z ∈ first ∨ z ∈ more → Tested z := by
    intro z hz
    apply htested
    rw [hsplit, List.mem_append, List.mem_cons]
    tauto
  have hty := hmem y (Or.inl rfl)
  have hmeasured : Measured y := by
    rw [hty.switch_speed] at hy
    split_ifs at hy with h
    exact h
  have hspeed : ∀ z, Tested z → Measured z → switch z.speed = some ((z.connectedQuality : ℚ) / 1000000) :=
    fun z hz h => by rw [hz.switch_speed, if_pos h]
  rw [hfold]
  refine ⟨first, more, hsplit, hmeasured, fun z hz h => ?_, fun z hz h => ?_⟩
  · have hlt := hfirst z hz _ (hspeed z (hmem z (Or.inr (Or.inl hz))) h)
    rw [hspeed y hty hmeasured] at hy
    obtain rfl := Option.some.inj hy
    rwa [div_lt_div_iff_of_pos_right (by norm_num), Int.cast_lt] at hlt
  · have hle := hmore z hz _ (hspeed z (hmem z (Or.inr (Or.inr hz))) h)
    rwa [hty.switch_le_iff hy] at hle

theorem Slowest.unique (hi : Slowest routes i) (hj : Slowest routes j) : i = j := by
  obtain ⟨first, rest, hsplit, hmi, hfirst, hrest⟩ := hi
  obtain ⟨first', rest', hsplit', hmj, hfirst', hrest'⟩ := hj
  rcases List.append_eq_append_iff.mp (hsplit.symm.trans hsplit') with ⟨more, hmore, hlist⟩ | ⟨more, hmore, hlist⟩
  · cases more with
    | nil => exact (List.cons.inj hlist).1
    | cons k more =>
      obtain ⟨rfl, htail⟩ := List.cons.inj hlist
      have hlt := hfirst' i (by rw [hmore]; simp) hmi
      have hle := hrest j (htail ▸ List.mem_append_right more List.mem_cons_self) hmj
      exact absurd hlt (not_lt.mpr hle)
  · cases more with
    | nil => exact (List.cons.inj hlist).1.symm
    | cons k more =>
      obtain ⟨rfl, htail⟩ := List.cons.inj hlist
      have hlt := hfirst j (by rw [hmore]; simp) hmj
      have hle := hrest' i (htail ▸ List.mem_append_right more List.mem_cons_self) hmi
      exact absurd hlt (not_lt.mpr hle)

theorem Slowest.mem (h : Slowest routes i) : i ∈ routes := by
  obtain ⟨first, rest, rfl, -⟩ := h
  simp

theorem Slowest.le (h : Slowest routes i) (hj : j ∈ routes) (hmj : Measured j) :
    j.connectedQuality ≤ i.connectedQuality := by
  obtain ⟨first, rest, rfl, -, hfirst, hrest⟩ := h
  rcases List.mem_append.mp hj with hj | hj
  · exact (hfirst j hj hmj).le
  · rcases List.mem_cons.mp hj with rfl | hj
    · exact le_rfl
    · exact hrest j hj hmj

/-- The route that the function chooses. -/
theorem changeRoute_spec (htested : ∀ j ∈ i :: rest, Tested j) :
    ∃ it ∈ i :: rest, changeRoute (i :: rest) = it.host ∧ (if Measured i then Slowest (i :: rest) it else it = i) := by
  by_cases hi : Measured i
  · have hslowest := slowest_foldl htested hi
    exact ⟨_, hslowest.mem, changeRoute_cons i rest, by rw [if_pos hi]; exact hslowest⟩
  · have hkey : switch i.speed = none := by rw [(htested i List.mem_cons_self).switch_speed, if_neg hi]
    have hfold := foldl_keepGreater_none (fun i : Onevps => switch i.speed) hkey rest
    exact ⟨i, List.mem_cons_self, by rw [changeRoute_cons, hfold], by rw [if_neg hi]⟩

/-- Where a host has one time only. -/
theorem picksFastest_iff_first (htested : ∀ j ∈ i :: rest, Tested j)
    (hhosts : ∀ j ∈ i :: rest, ∀ k ∈ i :: rest, j.host = k.host → j.connectedQuality = k.connectedQuality) :
    PicksFastest (i :: rest) ↔ Fastest (i :: rest) i ∧
      (Measured i → ∀ j ∈ rest, Measured j → j.connectedQuality = i.connectedQuality) := by
  obtain ⟨it, hmem, hhost, hit⟩ := changeRoute_spec htested
  constructor
  · rintro ⟨fast, hfast, hchosen⟩
    have htime := hhosts it hmem fast hfast.1 (hhost.symm.trans hchosen)
    split_ifs at hit with hi
    · -- all that can be compared are at most as slow as the chosen one, which is a fastest one
      have hall : ∀ j ∈ i :: rest, Measured j → j.connectedQuality = fast.connectedQuality := fun j hj hmj =>
        le_antisymm ((hit.le hj hmj).trans htime.le) (hfast.2 j hj)
      have hfirst := hall i List.mem_cons_self hi
      refine ⟨⟨List.mem_cons_self, fun j hj => hfirst.trans_le (hfast.2 j hj)⟩, fun _ j hj hmj => ?_⟩
      rw [hall j (List.mem_cons_of_mem i hj) hmj, hfirst]
    · rw [hit] at htime
      exact ⟨⟨List.mem_cons_self, fun j hj => htime.trans_le (hfast.2 j hj)⟩, fun h => absurd h hi⟩
  · rintro ⟨hfirst, hsame⟩
    split_ifs at hit with hi
    · have htime : it.connectedQuality = i.connectedQuality := by
        obtain ⟨first, more, hsplit, hmit, -⟩ := hit
        rcases List.mem_cons.mp hmem with rfl | hrest
        · rfl
        · exact hsame hi it hrest hmit
      exact ⟨it, ⟨hmem, fun j hj => htime.trans_le (hfirst.2 j hj)⟩, hhost⟩
    · exact ⟨i, hfirst, by rw [hhost, hit]⟩

/-- **The fastest route is chosen exactly if the slowest of those that can be compared has its host**, or the first
route has where it cannot be compared. Where a host has one time only, that is so exactly if the first route is a
fastest one and, where it can be compared, all that can be are as fast. -/
theorem picksFastest_iff (htested : ∀ j ∈ i :: rest, Tested j) :
    (PicksFastest (i :: rest) ↔ ∃ fast it, Fastest (i :: rest) fast ∧ it.host = fast.host ∧
      (if Measured i then Slowest (i :: rest) it else it = i)) ∧
    ((∀ j ∈ i :: rest, ∀ k ∈ i :: rest, j.host = k.host → j.connectedQuality = k.connectedQuality) →
      (PicksFastest (i :: rest) ↔ Fastest (i :: rest) i ∧
        (Measured i → ∀ j ∈ rest, Measured j → j.connectedQuality = i.connectedQuality))) := by
  refine ⟨?_, picksFastest_iff_first htested⟩
  obtain ⟨it, -, hhost, hit⟩ := changeRoute_spec htested
  constructor
  · rintro ⟨fast, hfast, hchosen⟩
    exact ⟨fast, it, hfast, hhost.symm.trans hchosen, hit⟩
  · rintro ⟨fast, it', hfast, hsame, hit'⟩
    have heq : it = it' := by
      split_ifs at hit hit' with hi
      · exact hit.unique hit'
      · rw [hit, hit']
    exact ⟨fast, hfast, hhost.trans (heq ▸ hsame)⟩

end Choice

/-- Two routes of the same time. -/
theorem picksFastest_iff_equal :
    PicksFastest [⟨str "a.io", [], str "20ms", 20000000⟩, ⟨str "b.io", [], str "20ms", 20000000⟩] :=
  ((picksFastest_iff (List.forall_mem_cons.mpr ⟨⟨by decide, by decide⟩,
    List.forall_mem_singleton.mpr ⟨by decide, by decide⟩⟩)).2 (by decide)).mpr
    ⟨⟨List.mem_cons_self, by decide⟩, by decide⟩

/-- Of two routes the slower one is chosen. -/
theorem not_picksFastest_slower :
    (∀ j ∈ [(⟨str "a.io", [], str "20ms", 20000000⟩ : Onevps), ⟨str "b.io", [], str "1.5s", 1500000000⟩], Tested j) ∧
      changeRoute [⟨str "a.io", [], str "20ms", 20000000⟩, ⟨str "b.io", [], str "1.5s", 1500000000⟩] = str "b.io" ∧
      ¬PicksFastest [⟨str "a.io", [], str "20ms", 20000000⟩, ⟨str "b.io", [], str "1.5s", 1500000000⟩] := by
  have hchosen : changeRoute [⟨str "a.io", [], str "20ms", 20000000⟩, ⟨str "b.io", [], str "1.5s", 1500000000⟩] =
      str "b.io" := by
    decide +kernel
  refine ⟨List.forall_mem_cons.mpr ⟨⟨by decide, by decide⟩, List.forall_mem_singleton.mpr ⟨by decide, by decide⟩⟩,
    hchosen, ?_⟩
  rintro ⟨fast, ⟨hmem, hfast⟩, hhost⟩
  rw [hchosen] at hhost
  rcases List.mem_cons.mp hmem with rfl | hmem
  · exact absurd hhost (by decide)
  · obtain rfl := List.mem_singleton.mp hmem
    exact absurd (hfast _ List.mem_cons_self) (by decide)

end ProxyZ.Deploy
