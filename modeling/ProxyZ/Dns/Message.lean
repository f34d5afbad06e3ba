import ProxyZ.Go.Base64
import ProxyZ.Go.Net
import ProxyZ.Go.Stream

/-!
# DNS messages as text

A DNS message crosses the tunnel as `dns://` and the Base64 text of its wire form. The wire form itself is the
DNS library's: `Codec` stands for its `Pack` and `Unpack`. Of a message the code looks at the questions and
adds to the answers; the rest is carried along.
-/

namespace ProxyZ.Dns

open Go

structure Question where
  name : Str
  qtype : Nat
  qclass : Nat
  deriving DecidableEq, Repr

/-- An answer: an IPv4 address record of the Internet class, or another record. -/
inductive Rr (ρ : Type)
  | a (name : Str) (ttl : Nat) (ip : IP)
  | other (rr : ρ)
  deriving DecidableEq, Repr

structure Msg (ρ : Type) where
  question : List Question
  answer : List (Rr ρ)
  rest : ρ
  deriving DecidableEq, Repr

/-- `Pack` and `Unpack` of the DNS library. -/
structure Codec (ρ : Type) where
  pack : Msg ρ → Except Err Bytes
  unpack : Bytes → Except Err (Msg ρ)

def Codec.Inverse {ρ : Type} (codec : Codec ρ) : Prop :=
  ∀ msg buf, codec.pack msg = .ok buf → codec.unpack buf = .ok msg

variable {ρ : Type} (codec : Codec ρ)

def packDNS (msg : Msg ρ) : Str :=
  match codec.pack msg with
  | .error _ => []
  | .ok buf => str "dns://" ++ encodeToString buf

/-- The error of a text that is no Base64. -/
def corruptInput (at' : Nat) : Err := .text (str "illegal base64 data at input byte " ++ itoa at')

/-- `UnpackDNS`, `none` where the index into the split text is out of range. -/
def unpackDNS (dnsmsg : Str) : Option (Except Err (Msg ρ)) :=
  if hasPrefix dnsmsg (str "dns://") then do
    let rmsg ← (split (str "dns://") dnsmsg)[1]?
    match decodeString rmsg with
    | .error at' => return .error (corruptInput at')
    | .ok buf => return codec.unpack buf
  else return .error (.text (str "not dns:// start"))

/-- The name that is looked up for a question. -/
def lookupName (q : Question) : Str := if hasSuffix q.name (str ".") then q.name.dropLast else q.name

/-- The records `ReplyDNS` adds for the addresses found. -/
def addressRecords (name : Str) (ips : List IP) : List (Rr ρ) :=
  ips.filterMap fun ip =>
    if ipString ip = [] ∨ ipString ip = str "0.0.0.0" then none
    else if (to4 ip).isSome then some (.a (name ++ str ".") 80 ip)
    else none

/-- The message `ReplyDNS` packs. It checks `err`, which is nil here, and not the error of the lookup: a lookup
that fails has found no address. -/
def replyMsg (lookupIP : Str → Except Err (List IP)) (r : Msg ρ) (q : Question) : Msg ρ :=
  match lookupIP (lookupName q) with
  | .ok ips => { r with answer := r.answer ++ addressRecords (lookupName q) ips }
  | .error _ => r

def replyDNS (lookupIP : Str → Except Err (List IP)) (dnsmsg : Str) : Option (Str × Option Err) := do
  match ← unpackDNS codec dnsmsg with
  | .error err => return ([], some err)
  | .ok r =>
      match r.question with
      | [] => return ([], some (.text (str "no question in dns req")))
      | q :: _ => return (packDNS codec (replyMsg lookupIP r q), none)

/-! ### The text of a message -/

theorem split_scheme (body : Str) :
    split (str "dns://") (str "dns://" ++ body) = [] :: split (str "dns://") body :=
  split_of_cut_some (by decide) (cut_append_self (by decide) body)

theorem unpackDNS_isSome (dnsmsg : Str) : ∃ res, unpackDNS codec dnsmsg = some res := by
  unfold unpackDNS
  split_ifs with hpre
  · obtain ⟨body, rfl⟩ := hasPrefix_iff.mp hpre
    obtain ⟨rmsg, rest, hsplit⟩ := exists_split (str "dns://") body
    rw [split_scheme, hsplit]
    simp only [List.getElem?_cons_succ, List.getElem?_cons_zero, Option.bind_eq_bind, Option.bind_some]
    cases decodeString rmsg with
    | error at' => exact ⟨_, rfl⟩
    | ok buf => exact ⟨_, rfl⟩
  · exact ⟨_, rfl⟩

/-- No byte of Base64 is a bracket or a colon. -/
theorem notMem_encodeToString (buf : Bytes) {c : UInt8} (hc : isBase64 c = false) : c ∉ encodeToString buf := by
  intro hmem
  rw [isBase64_of_mem hmem] at hc
  exact Bool.noConfusion hc

theorem cut_encodeToString (buf : Bytes) : cut (str "dns://") (encodeToString buf) = none := by
  rw [cut_eq_none_iff]
  intro hinfix
  have hcolon : (58 : UInt8) ∈ encodeToString buf := hinfix.subset (by decide)
  exact notMem_encodeToString buf (by decide) hcolon

/-- **`UnpackDNS` undoes `PackDNS`.** -/
theorem unpackDNS_packDNS (hinv : codec.Inverse) {msg : Msg ρ} {buf : Bytes} (hpack : codec.pack msg = .ok buf) :
    unpackDNS codec (packDNS codec msg) = some (.ok msg) := by
  unfold packDNS unpackDNS
  rw [hpack]
  dsimp only
  rw [if_pos (hasPrefix_append _ _), split_scheme, split_of_cut_none (cut_encodeToString buf)]
  simp only [List.getElem?_cons_succ, List.getElem?_cons_zero, Option.bind_eq_bind, Option.bind_some,
    decodeString_encodeToString, hinv msg buf hpack]
  rfl

/-- What the text of a message unpacks to, if to anything, is the message. -/
theorem eq_of_unpackDNS_packDNS (hinv : codec.Inverse) {msg msg' : Msg ρ}
    (h : unpackDNS codec (packDNS codec msg) = some (.ok msg')) : msg' = msg := by
  rcases hpack : codec.pack msg with err | buf
  · have hempty : packDNS codec msg = [] := by
      unfold packDNS
      rw [hpack]
    rw [hempty] at h
    cases h
  · rw [unpackDNS_packDNS codec hinv hpack] at h
    cases h
    rfl

end ProxyZ.Dns
