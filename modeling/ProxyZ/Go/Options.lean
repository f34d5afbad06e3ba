import ProxyZ.Go.Text

/-!
# Options of a command

A command line of options that may be missing: each that is there is written as its flag, a blank and its value, and
they are put together with blanks. Where neither flags nor values have blanks in them, the text determines the options
(`optionText_inj`).
-/

namespace Go

/-- The flags with their values, `none` where an option is missing. -/
abbrev Options := List (Str × Option Str)

/-- An option as it is written. -/
def optionPart (o : Str × Option Str) : Option Str := o.2.map fun value => o.1 ++ 32 :: value

def optionText (opts : Options) : Str := [32].intercalate (opts.filterMap optionPart)

/-- The words of the text. -/
def optionWords (opts : Options) : List Str :=
  opts.flatMap fun o =>
    match o.2 with
    | some value => [o.1, value]
    | none => []

/-- No blanks in the flags and values. -/
def Options.Plain (opts : Options) : Prop := ∀ o ∈ opts, (32 : UInt8) ∉ o.1 ∧ ∀ value ∈ o.2, (32 : UInt8) ∉ value

section Options

variable {opts opts' : Options}

theorem intercalate_cons (sep x : Str) (l : List Str) :
    sep.intercalate (x :: l) = if l = [] then x else x ++ sep ++ sep.intercalate l := by
  rcases l with _ | ⟨y, l⟩
  · exact List.intercalate_singleton
  · rw [if_neg (List.cons_ne_nil y l), List.intercalate_cons_cons]

theorem optionWords_none (flag : Str) (opts : Options) : optionWords ((flag, none) :: opts) = optionWords opts := rfl

theorem optionWords_some (flag value : Str) (opts : Options) :
    optionWords ((flag, some value) :: opts) = flag :: value :: optionWords opts := rfl

/-- There are parts exactly if there are words. -/
theorem filterMap_optionPart_eq_nil_iff (opts : Options) : opts.filterMap optionPart = [] ↔ optionWords opts = [] := by
  induction opts with
  | nil => simp [optionWords]
  | cons o opts ih =>
    obtain ⟨flag, _ | value⟩ := o
    · rw [List.filterMap_cons_none rfl, optionWords_none]
      exact ih
    · rw [optionWords_some]
      simp [optionPart]

theorem optionText_eq (opts : Options) : optionText opts = [32].intercalate (optionWords opts) := by
  unfold optionText
  induction opts with
  | nil => rfl
  | cons o opts ih =>
    obtain ⟨flag, _ | value⟩ := o
    · rw [List.filterMap_cons_none rfl, optionWords_none]
      exact ih
    · have hpart : optionPart (flag, some value) = some (flag ++ 32 :: value) := rfl
      rw [List.filterMap_cons_some hpart, optionWords_some, intercalate_cons, intercalate_cons,
        if_neg (List.cons_ne_nil value _), intercalate_cons, ih]
      simp only [filterMap_optionPart_eq_nil_iff]
      split_ifs <;> simp

/-- A word at the front is a flag. -/
theorem head_optionWords {opts : Options} {flag : Str} (h : (optionWords opts).head? = some flag) :
    flag ∈ opts.map Prod.fst := by
  induction opts with
  | nil => cases h
  | cons o opts ih =>
    obtain ⟨flag', _ | value⟩ := o
    · exact List.mem_cons_of_mem flag' (ih h)
    · cases h
      exact List.mem_cons_self

/-- The words determine options whose flags are known and different. -/
theorem optionWords_inj (hflags : opts.map Prod.fst = opts'.map Prod.fst) (hnodup : (opts.map Prod.fst).Nodup)
    (h : optionWords opts = optionWords opts') : opts = opts' := by
  induction opts generalizing opts' with
  | nil => exact (List.map_eq_nil_iff.mp hflags.symm).symm
  | cons o opts ih =>
    rcases opts' with _ | ⟨o', opts'⟩
    · cases hflags
    obtain ⟨flag, value⟩ := o
    obtain ⟨flag', value'⟩ := o'
    obtain ⟨rfl, hrest⟩ := List.cons.inj hflags
    obtain ⟨hnew, htail⟩ := List.nodup_cons.mp hnodup
    -- the flag stands at the front exactly where its option is there
    have hfront : ∀ {more : Options} {words : List Str}, more.map Prod.fst = opts.map Prod.fst →
        optionWords more = flag :: words → False := by
      intro more words hmore hwords
      have hmem := head_optionWords (congrArg List.head? hwords)
      exact hnew (hmore ▸ hmem)
    cases value with
    | none =>
      cases value' with
      | none => rw [ih hrest htail h]
      | some value' => exact (hfront rfl h).elim
    | some value =>
      cases value' with
      | none => exact (hfront hrest.symm h.symm).elim
      | some value' =>
        rw [optionWords_some, optionWords_some] at h
        obtain ⟨-, hvalue⟩ := List.cons.inj h
        obtain ⟨rfl, hwords⟩ := List.cons.inj hvalue
        rw [ih hrest htail hwords]

theorem Options.Plain.words (h : opts.Plain) : ∀ word ∈ optionWords opts, (32 : UInt8) ∉ word := by
  intro word hword
  obtain ⟨o, ho, hmem⟩ := List.mem_flatMap.mp hword
  obtain ⟨flag, value⟩ := o
  obtain ⟨hflag, hvalue⟩ := h _ ho
  cases value with
  | none => cases hmem
  | some value =>
    simp only [List.mem_cons, List.not_mem_nil, or_false] at hmem
    rcases hmem with rfl | rfl
    · exact hflag
    · exact hvalue _ rfl

/-- The text is empty exactly if all options are missing. -/
theorem optionText_eq_nil_iff (opts : Options) : optionText opts = [] ↔ optionWords opts = [] := by
  rw [← filterMap_optionPart_eq_nil_iff]
  unfold optionText
  constructor
  · intro h
    rcases hparts : opts.filterMap optionPart with _ | ⟨part, parts⟩
    · rfl
    · obtain ⟨o, -, hpart⟩ := List.mem_filterMap.mp (hparts ▸ List.mem_cons_self : part ∈ opts.filterMap optionPart)
      obtain ⟨value, -, rfl⟩ := Option.map_eq_some_iff.mp hpart
      rw [hparts, intercalate_cons] at h
      split_ifs at h <;> simp at h
  · intro h
    rw [h]
    rfl

/-- **The text determines the options**, if there are no blanks in them. -/
theorem optionText_inj (hplain : opts.Plain) (hplain' : opts'.Plain) (hflags : opts.map Prod.fst = opts'.map Prod.fst)
    (hnodup : (opts.map Prod.fst).Nodup) (h : optionText opts = optionText opts') : opts = opts' := by
  refine optionWords_inj hflags hnodup ?_
  by_cases hempty : optionWords opts = []
  · have hempty' := (optionText_eq_nil_iff opts').mp (h ▸ (optionText_eq_nil_iff opts).mpr hempty)
    rw [hempty, hempty']
  · have hempty' : optionWords opts' ≠ [] := fun hnil =>
      hempty ((optionText_eq_nil_iff opts).mp (h.trans ((optionText_eq_nil_iff opts').mpr hnil)))
    rw [optionText_eq, optionText_eq] at h
    rw [← split_intercalate hempty hplain.words, h, split_intercalate hempty' hplain'.words]

end Options

end Go
