import ProxyZ.Dns.Local

/-!
# The question that is answered

An answer through a tunnel to a name that ends in `.lan.` is for the name without it, and so is the empty reply
behind three failures, since the attempts have rewritten the question of the caller's message. The first attempt
keeps its addresses for the name of the query, a later one for the name the one before has left. In all other
cases the answer is for the question asked (`answersQuestion_iff`).
-/

namespace ProxyZ.Dns

open Go Method

section Lan

variable {ρ : Type} {w : World ρ} {r : Msg ρ} {q : Question} {rest : List Question}

/-- The message that is written has the name of the query, and the cache is changed for that name only. -/
def AnswersQuestion (w : World ρ) (r : Msg ρ) (name : Str) (s : Resolver ρ) : Prop :=
  ∃ s' m, serveDNS w r s = .ok (⟨⟩, s') ∧ s'.written = s.written ++ [m] ∧ Asks (fun n => n = name) m ∧
    ∀ k, k ≠ name → s'.domainsToAddresses.lookup k = s.domainsToAddresses.lookup k

theorem withoutLan_eq (h : hasSuffix q.name (str ".lan.") = false) : withoutLan q = q := by
  unfold withoutLan
  rw [h]
  exact if_neg Bool.false_ne_true

theorem length_withoutLan_lt (h : hasSuffix q.name (str ".lan.") = true) :
    (withoutLan q).name.length < q.name.length := by
  have hcontains : contains q.name (str ".lan.") = true := by
    rw [contains_iff]
    unfold hasSuffix at h
    exact (List.isSuffixOf_iff_suffix.mp h).isInfix
  unfold withoutLan
  rw [if_pos h]
  exact length_replaceAll_lt (by decide) hcontains

theorem length_withoutLan_le (q : Question) : (withoutLan q).name.length ≤ q.name.length := by
  cases h : hasSuffix q.name (str ".lan.") with
  | false => rw [withoutLan_eq h]
  | true => exact (length_withoutLan_lt h).le

/-- **The answer is for the question asked exactly if the name does not end in `.lan.` or no tunnel is tried.** -/
theorem answersQuestion_iff (hinv : w.codec.Inverse) (hecho : w.Echoes) (hr : r.question = q :: rest)
    (hq : q.qtype = typeA) (s : Resolver ρ) :
    AnswersQuestion w r q.name s ↔
      ¬(hasSuffix q.name (str ".lan.") = true ∧ Attempted w s (addressReply w r) q.name) := by
  have hquestion : (addressReply w r).question = [q] := question_addressReply hr
  constructor
  · rintro ⟨s', m, hcall, hwritten, ⟨q', rest', hm, hname⟩, -⟩ ⟨hlan, hattempted⟩
    have hshorter : Closed fun n => n.length < q.name.length := fun q' hq' =>
      lt_of_le_of_lt (length_withoutLan_le q') hq'
    obtain ⟨s₁, hcall₁, hresolves⟩ := resolveA_spec (K := fun _ => True) (J := fun n => n.length < q.name.length)
      hquestion trivial s fun _ => ⟨hshorter, fun _ _ => trivial, length_withoutLan_lt hlan⟩
    have heq := hcall.symm.trans (serveDNS_of_a hr hq s hcall₁)
    cases heq
    obtain ⟨m', hanswer, hwritten'⟩ := hresolves.written
    obtain rfl : m = m' := List.singleton_inj.mp (List.append_cancel_left (hwritten.symm.trans hwritten'))
    obtain ⟨q'', rest'', hm', hlt⟩ := (hanswer hinv hecho).2 hattempted
    rw [hm] at hm'
    cases hm'
    rw [hname] at hlt
    exact absurd hlt (lt_irrefl _)
  · intro hnot
    have hsame : Attempted w s (addressReply w r) q.name → Closed fun n => n = q.name := by
      intro hattempted q' hq'
      have hlan : hasSuffix q'.name (str ".lan.") = false := by
        rw [hq']
        exact Bool.eq_false_iff.mpr fun h => hnot ⟨h, hattempted⟩
      rw [withoutLan_eq hlan]
      exact hq'
    obtain ⟨s', hcall, hresolves⟩ := resolveA_spec (K := fun n => n = q.name) (J := fun n => n = q.name)
      hquestion rfl s fun h => ⟨hsame h, hsame h, hsame h q rfl⟩
    obtain ⟨m, hanswer, hwritten⟩ := hresolves.written
    refine ⟨_, m, serveDNS_of_a hr hq s hcall, hwritten, ?_, hresolves.cache⟩
    by_cases hattempted : Attempted w s (addressReply w r) q.name
    · exact (hanswer hinv hecho).2 hattempted
    · exact ⟨q, [], ((hanswer hinv hecho).1 hattempted).trans hquestion, rfl⟩

end Lan

/-! ### Two queries -/

/-- A router with one tunnel that echoes a query for the addresses of `a.example.`. -/
def echoWorld : World (Nat × Nat) where
  codec := codecOf shortQuery shortWire
  setReply h := (h.1, 0x8100)
  authoritative h := (h.1, h.2 + 0x400)
  isRouter := true
  isLocal _ := false
  now _ := 0
  rand := 0
  parseIP _ := []
  lookupIP _ := .ok []
  connectRemote _ := .ok (str "e")
  read _ frame :=
    if frame = queryFrame (codecOf shortQuery shortWire) shortQuery then
      .ok (packDNS (codecOf shortQuery shortWire) shortQuery)
    else .error .eof

theorem echoWorld_echoes : echoWorld.Echoes := by
  intro i frame replyB m hread hunpack
  simp only [echoWorld] at hread hunpack ⊢
  split_ifs at hread with hframe
  cases hread
  have hm := eq_of_unpackDNS_packDNS _ (codecOf_inverse _ _) hunpack
  exact ⟨shortQuery, shortWire, codecOf_pack _ _, hframe, by rw [hm]⟩

theorem answersQuestion_iff_short :
    AnswersQuestion echoWorld ⟨[⟨str "a.example.", 1, 1⟩], [], (0x1234, 0x100)⟩ (str "a.example.") {} := by
  apply (answersQuestion_iff (q := ⟨str "a.example.", 1, 1⟩) (codecOf_inverse _ _) echoWorld_echoes rfl rfl {}).mpr
  exact fun h => absurd h.1 (by decide)

/-- A query for `a.lan.`, how it is asked through a tunnel, and the answer to that. -/
def lanQuery : Msg (Nat × Nat) := ⟨[⟨str "a.lan.", 1, 1⟩], [], (0x1234, 0x100)⟩

def lanAsked : Msg (Nat × Nat) := ⟨[⟨str "a.", 1, 1⟩], [], (0x1234, 0x8500)⟩

def lanAnswer : Msg (Nat × Nat) := { lanAsked with answer := [.a (str "a.") 80 [192, 0, 2, 1]] }

/-- The DNS library on these two messages, with short wire forms. -/
def lanCodec : Codec (Nat × Nat) where
  pack m :=
    if m = lanAsked then .ok [1] else if m = lanAnswer then .ok [2] else .error (.text (str "dns: not packed here"))
  unpack b :=
    if b = [1] then .ok lanAsked else if b = [2] then .ok lanAnswer else .error (.text (str "dns: not unpacked here"))

theorem lanCodec_inverse : lanCodec.Inverse := by
  intro m buf h
  simp only [lanCodec] at h ⊢
  split_ifs at h with hasked hanswer
  · cases h
    rw [if_pos rfl, hasked]
  · cases h
    rw [if_neg (by decide), if_pos rfl, hanswer]

/-- A router whose tunnel has no connection at first, and where `up` holds has one in the second attempt. -/
def lanWorld (up : Bool) : World (Nat × Nat) :=
  { echoWorld with
    codec := lanCodec
    connectRemote := fun i => if up ∧ i = 1 then .ok (str "e") else .error (str "e")
    read := fun _ frame =>
      if frame = queryFrame lanCodec lanAsked then .ok (packDNS lanCodec lanAnswer) else .error .eof }

theorem lanWorld_echoes (up : Bool) : (lanWorld up).Echoes := by
  intro i frame replyB m hread hunpack
  simp only [lanWorld] at hread hunpack ⊢
  split_ifs at hread with hframe
  cases hread
  have hm := eq_of_unpackDNS_packDNS _ lanCodec_inverse hunpack
  exact ⟨lanAsked, [1], rfl, hframe, by rw [hm]; rfl⟩

/-- Behind three failures the empty reply is for `a.`. Where the second attempt is answered the reply is for
`a.` too, and the address is kept for `a.` instead of `a.lan.`. -/
theorem not_answersQuestion :
    (∀ up, (lanWorld up).Echoes ∧ ¬AnswersQuestion (lanWorld up) lanQuery (str "a.lan.") {}) ∧
      ∃ s', serveDNS (lanWorld true) lanQuery {} = .ok (⟨⟩, s') ∧ s'.written = [lanAnswer] ∧
        s'.domainsToAddresses.keys = [str "a."] := by
  have hname : str "a." ≠ str "a.lan." := by decide
  refine ⟨fun up => ⟨lanWorld_echoes up, ?_⟩, ⟨_, rfl, rfl, rfl⟩⟩
  rintro ⟨s', m, hcall, hwritten, ⟨q, rest, hm, hq⟩, -⟩
  cases up with
  | false =>
    cases hcall
    cases hwritten
    cases hm
    exact hname hq
  | true =>
    cases hcall
    cases hwritten
    cases hm
    exact hname hq

end ProxyZ.Dns
