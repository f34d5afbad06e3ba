import ProxyZ.Go.Base64
import ProxyZ.Go.Json
import ProxyZ.Go.Text

/-!
# Shadowsocks URIs

`parseURI` reads `ss://base64(method:password)@host:port` and `ss://base64(method:password@host:port)`. It takes the
scheme off with `TrimLeft`, which leaves the Base64 text of an ASCII method as it is, and tells the two forms apart by
an `@` outside of that text (`uriParts_ok_iff`).

The second form is split at each `@`, so it is not read where the method or the password has one. And the method and
the password are set before the port is looked at, so a port that is no number leaves a configuration that is changed
in part (`parseURI_iff`).
-/

namespace ProxyZ.Base

open Go

/-- The fields of `ProtocolConfig` that are set. -/
structure ProtocolConfig where
  method : Str := []
  password : Str := []
  server : Json := .null
  serverPort : Int := 0

/-- The errors: of `DecodeString` with the index, `invalidURI`, and of `Atoi` with the text. -/
inductive UriErr
  | corruptInput (si : Nat)
  | invalidURI
  | numError (num : Str)
  deriving DecidableEq

/-- `strings.TrimLeft(u, "ss://")`. -/
def trimScheme (u : Str) : Str := u.dropWhile fun c => c ∈ str "ss://"

/-- `headParts` and `tailParts`. -/
def uriSides (u : Str) : Except UriErr (List Str × List Str) :=
  match cut (str "@") (trimScheme u) with
  | none =>
      match decodeString (trimScheme u) with
      | .error si => .error (.corruptInput si)
      | .ok dat =>
          match split (str "@") dat with
          | [head, tail] => .ok (splitN (str ":") head 2, splitN (str ":") tail 2)
          | _ => .error .invalidURI
  | some (before, behind) =>
      if behind = [] then .error .invalidURI
      else
        match decodeString before with
        | .error si => .error (.corruptInput si)
        | .ok dat => .ok (splitN (str ":") dat 2, splitN (str ":") behind 2)

/-- The method, the password, the host and the port. -/
def uriParts (u : Str) : Except UriErr (Str × Str × Str × Str) :=
  match uriSides u with
  | .ok ([method, password], [host, port]) => .ok (method, password, host, port)
  | .ok _ => .error .invalidURI
  | .error e => .error e

/-- `parseURI`, with the configuration it leaves. -/
def parseURI (u : Str) (cfg : ProtocolConfig) : (Str × Option UriErr) × ProtocolConfig :=
  if u = [] then (([], none), cfg)
  else
    match uriParts u with
    | .error e => (([], some e), cfg)
    | .ok (method, password, host, port) =>
        let cfg := { cfg with method, password }
        match atoi? port with
        | none => (([], some (.numError port)), cfg)
        | some p => ((host, none), { cfg with server := .str host, serverPort := p })

/-- `ParseURI`. -/
def ParseURI (u : Str) : ProtocolConfig := (parseURI u {}).2

/-! ### The texts with four parts -/

/-- The text of these parts, with the `@` outside of the Base64 text or inside. -/
inductive Spells (u method password host port : Str) : Prop
  | outside (e : Str) (hu : trimScheme u = e ++ 64 :: (host ++ 58 :: port)) (he : (64 : UInt8) ∉ e)
      (hdecode : decodeString e = .ok (method ++ 58 :: password)) (hmethod : (58 : UInt8) ∉ method)
      (hhost : (58 : UInt8) ∉ host)
  | inside (hu : (64 : UInt8) ∉ trimScheme u)
      (hdecode : decodeString (trimScheme u) = .ok (method ++ 58 :: password ++ 64 :: (host ++ 58 :: port)))
      (hmethod : (58 : UInt8) ∉ method) (hhost : (58 : UInt8) ∉ host)
      (hhead : (64 : UInt8) ∉ method ++ 58 :: password) (htail : (64 : UInt8) ∉ host ++ 58 :: port)

theorem uriParts_eq_ok_iff {u method password host port : Str} :
    uriParts u = .ok (method, password, host, port) ↔ uriSides u = .ok ([method, password], [host, port]) := by
  unfold uriParts
  constructor
  · intro h
    split at h
    · cases h
      assumption
    · cases h
    · cases h
  · intro h
    rw [h]

theorem uriParts_ok_iff {u method password host port : Str} :
    uriParts u = .ok (method, password, host, port) ↔ Spells u method password host port := by
  rw [uriParts_eq_ok_iff]
  unfold uriSides
  rw [show str "@" = [64] from rfl, show str ":" = [58] from rfl]
  constructor
  · intro h
    split at h
    next hcut =>
      split at h
      next => cases h
      next dat hdecode =>
        split at h
        next head tail hsplit =>
          obtain ⟨rfl, hhead, htail⟩ := split_eq_pair_iff.mp hsplit
          obtain ⟨hfront, hback⟩ := Prod.mk.inj (Except.ok.inj h)
          obtain ⟨rfl, hmethod⟩ := splitN_eq_pair_iff.mp hfront
          obtain ⟨rfl, hhost⟩ := splitN_eq_pair_iff.mp hback
          refine .inside ?_ hdecode hmethod hhost hhead htail
          rwa [cut_eq_none_iff, List.singleton_infix_iff] at hcut
        next => cases h
    next before behind hcut =>
      split_ifs at h with hempty
      split at h
      next => cases h
      next dat hdecode =>
        obtain ⟨hfront, hback⟩ := Prod.mk.inj (Except.ok.inj h)
        obtain ⟨rfl, hmethod⟩ := splitN_eq_pair_iff.mp hfront
        obtain ⟨rfl, hhost⟩ := splitN_eq_pair_iff.mp hback
        obtain ⟨hu, he⟩ := cut_singleton_eq_some_iff.mp hcut
        exact .outside before hu he hdecode hmethod hhost
  · rintro (⟨e, hu, he, hdecode, hmethod, hhost⟩ | ⟨hu, hdecode, hmethod, hhost, hhead, htail⟩)
    · rw [hu, cut_singleton _ he]
      dsimp only
      rw [if_neg (by simp), hdecode]
      dsimp only
      rw [splitN_eq_pair_iff.mpr ⟨rfl, hmethod⟩, splitN_eq_pair_iff.mpr ⟨rfl, hhost⟩]
    · rw [cut_singleton_none hu]
      dsimp only
      rw [hdecode]
      dsimp only
      rw [split_eq_pair_iff.mpr ⟨rfl, hhead, htail⟩]
      dsimp only
      rw [splitN_eq_pair_iff.mpr ⟨rfl, hmethod⟩, splitN_eq_pair_iff.mpr ⟨rfl, hhost⟩]

/-! ### The two documented forms -/

/-- What a URI is made of. -/
structure SsConfig where
  method : Str
  password : Str
  host : Str
  port : Nat
  method_ne_nil : method ≠ []
  method_ascii : ∀ c ∈ method, c < 128
  method_colon : (58 : UInt8) ∉ method
  host_plain : (58 : UInt8) ∉ host ∧ (64 : UInt8) ∉ host
  port_le : port ≤ 65535

namespace SsConfig

variable (a : SsConfig)

def head : Str := a.method ++ str ":" ++ a.password

def tail : Str := a.host ++ str ":" ++ itoa a.port

/-- `ss://base64(method:password)@host:port` -/
def outsideURI : Str := str "ss://" ++ encodeToString a.head ++ str "@" ++ a.tail

/-- `ss://base64(method:password@host:port)` -/
def insideURI : Str := str "ss://" ++ encodeToString (a.head ++ str "@" ++ a.tail)

end SsConfig

/-- No error, and these four values are set. -/
def Reads (a : SsConfig) (u : Str) : Prop :=
  ∀ cfg : ProtocolConfig, parseURI u cfg = ((a.host, none),
    { cfg with method := a.method, password := a.password, server := .str a.host, serverPort := a.port })

/-- An error leaves the configuration as it is. -/
def KeepsOnError (u : Str) (cfg : ProtocolConfig) : Prop :=
  ∀ e, (parseURI u cfg).1.2 = some e → (parseURI u cfg).2 = cfg

section Forms

variable {a : SsConfig}

/-- The Base64 text of an ASCII text begins with no letter of the scheme. -/
theorem trimScheme_encodeToString {b : UInt8} (hb : b < 128) (dat rest : Str) :
    trimScheme (str "ss://" ++ (encodeToString (b :: dat) ++ rest)) = encodeToString (b :: dat) ++ rest := by
  have hscheme : ∀ d < 32, digit64 d ∉ str "ss://" := by decide
  have hfirst : ∃ more, encodeToString (b :: dat) = digit64 (b.toNat / 4) :: more := by
    match dat with
    | [] => exact ⟨_, rfl⟩
    | [_] => exact ⟨_, rfl⟩
    | _ :: _ :: _ => exact ⟨_, rfl⟩
  have hlt : b.toNat / 4 < 32 := by
    have : b.toNat < 128 := hb
    omega
  obtain ⟨more, hmore⟩ := hfirst
  unfold trimScheme
  rw [List.dropWhile_append_of_pos (fun c hc => decide_eq_true hc), hmore, List.cons_append,
    List.dropWhile_cons_of_neg]
  rw [decide_eq_true_eq]
  exact hscheme _ hlt

theorem at_notMem_encodeToString (b : Bytes) : (64 : UInt8) ∉ encodeToString b := fun h =>
  absurd (isBase64_of_mem h) (by decide)

theorem SsConfig.head_eq (a : SsConfig) : a.head = a.method ++ 58 :: a.password := by
  simp [SsConfig.head, str]

theorem SsConfig.tail_eq (a : SsConfig) : a.tail = a.host ++ 58 :: itoa a.port := by
  simp [SsConfig.tail, str]

/-- The scheme is taken off a text that begins with the method, and nothing else. -/
theorem SsConfig.trimScheme_head (a : SsConfig) (behind rest : Str) :
    trimScheme (str "ss://" ++ (encodeToString (a.head ++ behind) ++ rest)) =
      encodeToString (a.head ++ behind) ++ rest := by
  obtain ⟨b, more, hmethod⟩ := List.exists_cons_of_ne_nil a.method_ne_nil
  have hb : b < 128 := a.method_ascii b (hmethod ▸ List.mem_cons_self)
  rw [a.head_eq, hmethod]
  exact trimScheme_encodeToString hb _ rest

theorem atoi?_port (a : SsConfig) : atoi? (itoa a.port) = some (a.port : Int) := by
  rw [atoi?_itoa, if_pos]
  exact a.port_le.trans_lt (by decide)

/-- A text is read as these values where it has these four parts. -/
theorem reads_iff {u : Str} (hu : u ≠ []) :
    Reads a u ↔ ∃ port, Spells u a.method a.password a.host port ∧ atoi? port = some (a.port : Int) := by
  constructor
  · intro h
    have hfresh := h {}
    unfold parseURI at hfresh
    rw [if_neg hu] at hfresh
    rcases hparts : uriParts u with e | ⟨method, password, host, port⟩
    · rw [hparts] at hfresh
      cases congrArg (fun r => r.1.2) hfresh
    · rw [hparts] at hfresh
      dsimp only at hfresh
      rcases hport : atoi? port with _ | p
      · rw [hport] at hfresh
        cases congrArg (fun r => r.1.2) hfresh
      · rw [hport] at hfresh
        obtain ⟨hhost, hcfg⟩ := Prod.mk.inj hfresh
        obtain ⟨hmethod, hpassword, -, hp⟩ := ProtocolConfig.mk.inj hcfg
        rw [(Prod.mk.inj hhost).1, hmethod, hpassword] at hparts
        exact ⟨port, uriParts_ok_iff.mp hparts, hp ▸ hport⟩
  · rintro ⟨port, hspells, hport⟩ cfg
    unfold parseURI
    rw [if_neg hu, uriParts_ok_iff.mpr hspells]
    dsimp only
    rw [hport]

theorem reads_outsideURI (a : SsConfig) : Reads a a.outsideURI := by
  have htrim : trimScheme a.outsideURI = encodeToString a.head ++ 64 :: a.tail := by
    have h := a.trimScheme_head [] (str "@" ++ a.tail)
    rw [List.append_nil] at h
    rw [SsConfig.outsideURI, List.append_assoc, List.append_assoc]
    exact h
  refine (reads_iff (by simp [SsConfig.outsideURI, str])).mpr ⟨itoa a.port, .outside (encodeToString a.head) ?_ ?_ ?_
    a.method_colon a.host_plain.1, atoi?_port a⟩
  · rw [htrim, a.tail_eq]
  · exact at_notMem_encodeToString _
  · rw [decodeString_encodeToString, a.head_eq]

/-- The second form is split at each `@`. -/
theorem reads_insideURI_iff (a : SsConfig) :
    Reads a a.insideURI ↔ (64 : UInt8) ∉ a.method ∧ (64 : UInt8) ∉ a.password := by
  have htrim : trimScheme a.insideURI = encodeToString (a.head ++ 64 :: a.tail) := by
    have h := a.trimScheme_head (str "@" ++ a.tail) []
    rw [List.append_nil] at h
    rw [SsConfig.insideURI, List.append_assoc]
    exact h
  have hhead : (64 : UInt8) ∉ a.method ++ 58 :: a.password ↔ (64 : UInt8) ∉ a.method ∧ (64 : UInt8) ∉ a.password := by
    simp
  rw [reads_iff (by simp [SsConfig.insideURI, str]), ← hhead]
  constructor
  · rintro ⟨port, ⟨e, hu, -, -, -, -⟩ | ⟨-, -, -, -, hat, -⟩, -⟩
    · rw [htrim] at hu
      exact absurd (hu ▸ by simp : (64 : UInt8) ∈ encodeToString (a.head ++ 64 :: a.tail)) (at_notMem_encodeToString _)
    · exact hat
  · intro hat
    refine ⟨itoa a.port, .inside ?_ ?_ a.method_colon a.host_plain.1 hat ?_, atoi?_port a⟩
    · rw [htrim]
      exact at_notMem_encodeToString _
    · rw [htrim, decodeString_encodeToString, a.head_eq, a.tail_eq]
    · rw [List.mem_append, List.mem_cons, not_or, not_or]
      exact ⟨a.host_plain.2, by decide, notMem_itoa (by decide)⟩

theorem keepsOnError_iff (u : Str) (cfg : ProtocolConfig) : KeepsOnError u cfg ↔
    ∀ method password host port, Spells u method password host port → atoi? port = none →
      cfg.method = method ∧ cfg.password = password := by
  have hempty : ∀ method password host port, ¬Spells [] method password host port := by
    intro method password host port h
    cases uriParts_ok_iff.mpr h
  unfold KeepsOnError parseURI
  by_cases hu : u = []
  · subst hu
    rw [if_pos rfl]
    exact ⟨fun _ method password host port h => absurd h (hempty method password host port), nofun⟩
  rw [if_neg hu]
  rcases hparts : uriParts u with e | ⟨method, password, host, port⟩
  · constructor
    · intro _ method password host port h
      rw [uriParts_ok_iff.mpr h] at hparts
      cases hparts
    · exact fun _ _ _ => rfl
  · have hspells := uriParts_ok_iff.mp hparts
    dsimp only
    constructor
    · intro hkeeps method' password' host' port' h hport
      have hsame := hparts.symm.trans (uriParts_ok_iff.mpr h)
      cases hsame
      rw [hport] at hkeeps
      have hcfg := hkeeps _ rfl
      exact ⟨(congrArg ProtocolConfig.method hcfg).symm, (congrArg ProtocolConfig.password hcfg).symm⟩
    · intro hall e herr
      rcases hport : atoi? port with _ | p
      · obtain ⟨rfl, rfl⟩ := hall method password host port hspells hport
        rfl
      · rw [hport] at herr
        cases herr

/-- **Both forms are read exactly if the method and the password have no `@`, and a configuration survives an error
exactly if the text does not get as far as a port that is no number, or brings nothing new up to there.** -/
theorem parseURI_iff (a : SsConfig) (u : Str) (cfg : ProtocolConfig) :
    ((Reads a a.outsideURI ∧ Reads a a.insideURI) ↔ (64 : UInt8) ∉ a.method ∧ (64 : UInt8) ∉ a.password) ∧
      (KeepsOnError u cfg ↔ ∀ method password host port, Spells u method password host port → atoi? port = none →
        cfg.method = method ∧ cfg.password = password) := by
  refine ⟨?_, keepsOnError_iff u cfg⟩
  rw [and_iff_right (reads_outsideURI a), reads_insideURI_iff]

end Forms

/-- A password with an `@`. -/
def atPassword : SsConfig :=
  { method := str "rc4", password := str "p@ss", host := str "10.0.0.1", port := 8388, method_ne_nil := by decide
    method_ascii := by decide +kernel, method_colon := by decide, host_plain := by decide, port_le := by decide }

/-- It is cut in the second form, and a port that is no number leaves the method and the password behind. -/
theorem not_reads_atPassword :
    (atPassword.insideURI = str "ss://cmM0OnBAc3NAMTAuMC4wLjE6ODM4OA==" ∧
      (parseURI atPassword.insideURI {}).1.2 = some .invalidURI ∧ ¬Reads atPassword atPassword.insideURI) ∧
    (ParseURI (str "ss://cmM0OnB3@10.0.0.1:port")).password = str "pw" ∧
      ¬KeepsOnError (str "ss://cmM0OnB3@10.0.0.1:port") {} := by
  have herr : (parseURI atPassword.insideURI {}).1.2 = some .invalidURI := by decide
  have hpassword : (ParseURI (str "ss://cmM0OnB3@10.0.0.1:port")).password = str "pw" := by decide
  refine ⟨⟨by decide, herr, fun hreads => ?_⟩, hpassword, fun hkeeps => ?_⟩
  · rw [hreads {}] at herr
    cases herr
  · have hcfg := hkeeps (.numError (str "port")) (by decide)
    have hempty := hpassword.symm.trans (congrArg ProtocolConfig.password hcfg)
    exact absurd hempty (by decide)

end ProxyZ.Base
