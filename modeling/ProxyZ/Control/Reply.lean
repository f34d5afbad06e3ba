import ProxyZ.Control.Message
import ProxyZ.Go.Fmt

/-!
# Replies on the control channel

Both control servers answer with a JSON object of a message and a status, and the client's `RecvMsg` takes it
apart. The JSON text goes through `Fprintf` as the format, so the client decodes the text that was encoded
exactly if there is no percent sign in it (`roundTrips_iff`).
-/

namespace ProxyZ.Control

open Go

/-- The object of a reply, its keys in the order they are encoded in. -/
def replyFields (msg : Json) (status : Bool) : Fields :=
  [(str "msg", msg), (str "status", .str (if status then str "ok" else str "fail"))]

/-- The bytes written for a reply: `Json()` as a format without operands. -/
def writeReply (marshal : Fields → Str) (msg : Json) (status : Bool) : Str := sprintf (marshal (replyFields msg status))

/-- `Reply` of the tunnel server. -/
def reply (marshal : Fields → Str) (msg : Json) (status : Bool) : Str :=
  if status then writeReply marshal msg true else writeReply marshal msg false

/-- `Reply` of the deployment server. -/
def deployReply (marshal : Fields → Str) (msg : Json) (status : Bool) : Str :=
  if status then writeReply marshal msg true else writeReply marshal msg false

/-- Decoding undoes encoding on the two replies with a message. -/
def Undoes (marshal : Fields → Str) (unmarshal : Str → Option Fields) (msg : Json) : Prop :=
  ∀ status, unmarshal (marshal (replyFields msg status)) = some (replyFields msg status)

/-- The client gets what the server replies: the message with status ok, and a failure with any other. -/
def RoundTrips (write : (Fields → Str) → Json → Bool → Str) (marshal : Fields → Str) (msg : Json) : Prop :=
  ∀ unmarshal, Undoes marshal unmarshal msg →
    recvMsg unmarshal (write marshal msg true) = some (msg, true) ∧
      ∃ m, recvMsg unmarshal (write marshal msg false) = some (m, false)

section RoundTrip

variable {marshal : Fields → Str} {msg : Json}

theorem recvMsg_replyFields {unmarshal : Str → Option Fields} {text : Str} {status : Bool}
    (h : unmarshal text = some (replyFields msg status)) : recvMsg unmarshal text = some (msg, status) := by
  unfold recvMsg
  rw [h]
  cases status <;> rfl

/-- A text without percent signs arrives. -/
theorem recvMsg_writeReply {unmarshal : Str → Option Fields} (hundoes : Undoes marshal unmarshal msg) {status : Bool}
    (hplain : (37 : UInt8) ∉ marshal (replyFields msg status)) :
    recvMsg unmarshal (writeReply marshal msg status) = some (msg, status) := by
  unfold writeReply
  rw [(sprintf_eq_self_iff _).mpr hplain]
  exact recvMsg_replyFields (hundoes status)

/-- A text with a percent sign is written as another one, which a decoder may take for the other reply. -/
theorem exists_recvMsg_writeReply (hundoes : ∃ unmarshal, Undoes marshal unmarshal msg) {status : Bool}
    (hpercent : (37 : UInt8) ∈ marshal (replyFields msg status)) :
    ∃ unmarshal, Undoes marshal unmarshal msg ∧
      recvMsg unmarshal (writeReply marshal msg status) = some (msg, !status) := by
  obtain ⟨unmarshal, hundoes⟩ := hundoes
  have hne : marshal (replyFields msg !status) ≠ marshal (replyFields msg status) := by
    intro heq
    have hdecoded := recvMsg_replyFields (hundoes !status)
    rw [heq, recvMsg_replyFields (hundoes status)] at hdecoded
    have hstatus : status = !status := (Prod.mk.inj (Option.some.inj hdecoded)).2
    cases status <;> exact Bool.noConfusion hstatus
  let other : Str → Option Fields := fun text =>
    if text = marshal (replyFields msg status) then some (replyFields msg status) else some (replyFields msg !status)
  refine ⟨other, ?_, recvMsg_replyFields (if_neg ?_)⟩
  · intro s
    by_cases hs : s = status
    · rw [hs]
      exact if_pos rfl
    · rw [Bool.eq_not.mpr hs]
      exact if_neg hne
  · intro heq
    exact (sprintf_eq_self_iff _).mp heq hpercent

end RoundTrip

/-- **The replies of both servers arrive exactly if their JSON texts have no percent sign.** -/
theorem roundTrips_iff (marshal : Fields → Str) (msg : Json) (hundoes : ∃ unmarshal, Undoes marshal unmarshal msg) :
    RoundTrips reply marshal msg ∧ RoundTrips deployReply marshal msg ↔
      ∀ status, (37 : UInt8) ∉ marshal (replyFields msg status) := by
  constructor
  · rintro ⟨hreply, -⟩ status hpercent
    obtain ⟨unmarshal, hundoes, hrecv⟩ := exists_recvMsg_writeReply hundoes hpercent
    obtain ⟨hok, m, hfail⟩ := hreply unmarshal hundoes
    cases status with
    | true =>
      have hmsg := hrecv.symm.trans hok
      exact Bool.noConfusion (Prod.mk.inj (Option.some.inj hmsg)).2
    | false =>
      have hmsg := hrecv.symm.trans hfail
      exact Bool.noConfusion (Prod.mk.inj (Option.some.inj hmsg)).2
  · intro hplain
    have harrives : ∀ unmarshal, Undoes marshal unmarshal msg →
        recvMsg unmarshal (writeReply marshal msg true) = some (msg, true) ∧
          ∃ m, recvMsg unmarshal (writeReply marshal msg false) = some (m, false) := by
      intro unmarshal hundoes
      exact ⟨recvMsg_writeReply hundoes (hplain true), msg, recvMsg_writeReply hundoes (hplain false)⟩
    exact ⟨harrives, harrives⟩

/-- The JSON text of an object of plain strings. -/
def plainJson (d : Fields) : Str :=
  let quote := fun s : Str => [34] ++ s ++ [34]
  let fields := d.map fun (key, value) =>
    quote key ++ str ":" ++ match value with
      | .str s => quote s
      | _ => str "null"
  str "\x7b" ++ (str ",").intercalate fields ++ str "\x7d"

/-- A decoder of the two replies with a message, to which every other text is none. -/
def decodeReply (msg : Str) (text : Str) : Option Fields :=
  if text = plainJson (replyFields (.str msg) true) then some (replyFields (.str msg) true)
  else if text = plainJson (replyFields (.str msg) false) then some (replyFields (.str msg) false)
  else none

theorem undoes_decodeReply (msg : Str)
    (hne : plainJson (replyFields (.str msg) false) ≠ plainJson (replyFields (.str msg) true)) :
    Undoes plainJson (decodeReply msg) (.str msg) := by
  intro status
  cases status with
  | true => exact if_pos rfl
  | false =>
    unfold decodeReply
    rw [if_neg hne, if_pos rfl]

theorem roundTrips_iff_plain :
    RoundTrips reply plainJson (.str (str "updated")) ∧ RoundTrips deployReply plainJson (.str (str "updated")) :=
  (roundTrips_iff plainJson (.str (str "updated")) ⟨_, undoes_decodeReply (str "updated") (by decide)⟩).mpr (by decide)

/-- A message with a percent sign. The text written is no JSON, so the reply counts as failed. -/
theorem not_roundTrips_percent :
    reply plainJson (.str (str "50%")) true = str "\x7b\"msg\":\"50%!\"(MISSING),\"status\":\"ok\"\x7d" ∧
      recvMsg (decodeReply (str "50%")) (reply plainJson (.str (str "50%")) true) = some (.null, false) ∧
      ¬RoundTrips reply plainJson (.str (str "50%")) := by
  refine ⟨by decide, rfl, ?_⟩
  intro h
  obtain ⟨hok, -⟩ := h _ (undoes_decodeReply (str "50%") (by decide))
  have hfailed : recvMsg (decodeReply (str "50%")) (reply plainJson (.str (str "50%")) true) = some (.null, false) := rfl
  cases hfailed.symm.trans hok

end ProxyZ.Control
