import ProxyZ.Client.Decoders
import ProxyZ.Go.Url

/-!
# The address of the control server

`Wrap` gives an address its scheme and its port, `WrapIPPort` and `GetRoute` cut the host out of it again.

Where `Wrap` gets a host with a port and no scheme it depends on `url.Parse` what it does: that refuses such a text,
and then the scheme is put in front of it, or it takes the host for a scheme, and then a second port is put behind it.
So `Wrap` normalises the addresses of a host exactly if the host cannot be read as a scheme (`normalises_iff`). IPv4
addresses cannot, names that begin with a letter can.
-/

namespace ProxyZ.Client

open Go ProxyZ.Control

/-- `GetRoute`: the host of the address. -/
def getRoute (c : ClientControl) : Str :=
  let e := if contains c.addr (str "://") then (split (str "://") c.addr).getD 1 [] else c.addr
  if contains e (str ":") then (split (str ":") e).headD [] else e

/-- `parseUrl` is `url.Parse`, with any text of its errors. -/
def Parses (parseUrl : Str → Except Str Url) : Prop :=
  ∀ s, (parseUrl s).toOption = (urlParse s).map fun u => ⟨u.scheme, u.host, u.port⟩

/-- The addresses of a host, with or without scheme and port. -/
def addresses (h : Str) : List Str :=
  [h, h ++ str ":55443", str "https://" ++ h, str "https://" ++ h ++ str ":55443"]

/-- **The addresses of a host are normalised**: they all become the same one, which stays as it is, and from which and
from all of them the host is read. -/
structure Normalises (parseUrl : Str → Except Str Url) (h : Str) : Prop where
  wrap : ∀ addr ∈ addresses h, wrap parseUrl addr = str "https://" ++ h ++ str ":55443"
  idempotent : ∀ addr ∈ addresses h, Control.wrap parseUrl (Control.wrap parseUrl addr) = Control.wrap parseUrl addr
  host : ∀ addr ∈ addresses h, wrapIPPort parseUrl (Control.wrap parseUrl addr) = h
  route : ∀ c : ClientControl, ∀ addr ∈ addresses h,
    c.addr = addr ∨ c.addr = Control.wrap parseUrl addr → getRoute c = h

section Address

variable {parseUrl : Str → Except Str Url} {h : Str}

theorem Parses.ok (hparse : Parses parseUrl) {s : Str} {u : URL} (hu : urlParse s = some u) :
    parseUrl s = .ok ⟨u.scheme, u.host, u.port⟩ := by
  have hs := hparse s
  rw [hu] at hs
  rcases hres : parseUrl s with e | u'
  · rw [hres] at hs
    cases hs
  · rw [hres] at hs
    exact congrArg Except.ok (Option.some.inj hs)

theorem Parses.error (hparse : Parses parseUrl) {s : Str} (hs : urlParse s = none) : ∃ e, parseUrl s = .error e := by
  have hnone := hparse s
  rw [hs] at hnone
  rcases hres : parseUrl s with e | u'
  · exact ⟨e, rfl⟩
  · rw [hres] at hnone
    cases hnone

theorem port_of_notMem {u : URL} (hu : (58 : UInt8) ∉ u.host) : u.port = [] := by
  rw [URL.port, cutLast_none hu]

theorem port_address (h : Str) : URL.port ⟨str "https", h ++ str ":55443"⟩ = str "55443" := by
  rw [URL.port, show str ":55443" = 58 :: str "55443" from rfl, cutLast_append h (by decide)]
  rfl

/-- `IsHost` is what `url.Parse` finds in an IPv4 address or a DNS name. -/
theorem isHost_of_isHostName (hparse : Parses parseUrl) (hh : IsHostName h) : IsHost parseUrl h := by
  have hcolon := hh.notMem (show isHostByte 58 = false by decide)
  refine ⟨hcolon, ⟨_, hparse.ok hh.parse_bare, rfl, rfl⟩, _, hparse.ok hh.parse_https.2, rfl, rfl, port_address h⟩

/-! ### Wrap -/

theorem wrap_https (hparse : Parses parseUrl) (hh : IsHostName h) :
    wrap parseUrl (str "https://" ++ h) = str "https://" ++ h ++ str ":55443" := by
  unfold wrap
  rw [hparse.ok hh.parse_https.1]
  dsimp only
  rw [if_pos (port_of_notMem (hh.notMem (by decide)))]
  rfl

/-- What `Wrap` makes of a host with a port. -/
theorem wrap_port (hparse : Parses parseUrl) (hh : IsHostName h) :
    wrap parseUrl (h ++ str ":55443") =
      if isScheme h then h ++ str ":55443" ++ str ":55443" else str "https://" ++ h ++ str ":55443" := by
  have hport : ∀ c ∈ str "55443", isDigit c = true := by decide +kernel
  have hcolon : str ":55443" = 58 :: str "55443" := rfl
  by_cases hscheme : isScheme h = true
  · have hlower : toLower h ≠ [] := fun hnil => hh.nonempty (List.map_eq_nil_iff.mp hnil)
    rw [if_pos hscheme, wrap, hcolon, hparse.ok (hh.parse_named hscheme hport)]
    dsimp only
    rw [if_neg hlower, if_pos (port_of_notMem List.not_mem_nil)]
  · obtain ⟨e, herror⟩ := hparse.error (hh.parse_unnamed (Bool.eq_false_iff.mpr hscheme) hport)
    have hplain : contains (h ++ str ":55443") (str "://") = false := by
      rw [Bool.eq_false_iff, ne_eq, contains_iff]
      intro hinfix
      have hslash : (47 : UInt8) ∈ h ++ str ":55443" := hinfix.subset (by decide)
      rcases List.mem_append.mp hslash with hmem | hmem
      · exact hh.notMem (by decide) hmem
      · exact absurd hmem (by decide)
    have hsuffix : hasSuffix (str "https://" ++ (h ++ str ":55443")) (str ":55443") = true := by
      rw [hasSuffix, List.isSuffixOf_iff_suffix, ← List.append_assoc]
      exact List.suffix_append _ _
    rw [if_neg hscheme, wrap, hcolon, herror, ← hcolon]
    dsimp only
    rw [hplain, if_neg Bool.false_ne_true, if_pos hsuffix, List.append_assoc]

/-! ### The host of an address -/

/-- A host, and behind it a colon or nothing. -/
theorem getRoute_plain (hh : IsHostName h) {t : Str} (ht : t = [] ∨ t.head? = some 58) (hslash : (47 : UInt8) ∉ t)
    {c : ClientControl} (haddr : c.addr = h ++ t) : getRoute c = h := by
  have hcolon : (58 : UInt8) ∉ h := hh.notMem (by decide)
  have hplain : contains (h ++ t) (str "://") = false := by
    rw [Bool.eq_false_iff, ne_eq, contains_iff]
    intro hinfix
    have hmem : (47 : UInt8) ∈ h ++ t := hinfix.subset (by decide)
    exact (List.mem_append.mp hmem).elim (hh.notMem (by decide)) hslash
  rw [getRoute, haddr, hplain, if_neg Bool.false_ne_true]
  rw [show str ":" = [58] from rfl]
  rcases ht with rfl | ht
  · rw [List.append_nil, if_neg (by rw [contains_singleton]; exact hcolon)]
  · obtain ⟨rest, rfl⟩ : ∃ rest, t = 58 :: rest := ⟨t.tail, (List.cons_head?_tail ht).symm⟩
    rw [if_pos (by rw [contains_singleton]; simp), split_singleton rest hcolon, List.headD_cons]

theorem getRoute_https (hh : IsHostName h) {t : Str} (ht : t = [] ∨ t.head? = some 58) (hslash : (47 : UInt8) ∉ t)
    {c : ClientControl} (haddr : c.addr = str "https://" ++ (h ++ t)) : getRoute c = h := by
  have hplain := getRoute_plain hh ht hslash (c := { c with addr := h ++ t }) rfl
  have hcut : cut (str "://") (str "https://" ++ (h ++ t)) = some (str "https", h ++ t) := rfl
  have hnone : cut (str "://") (h ++ t) = none := by
    rw [cut_eq_none_iff]
    intro hinfix
    have hmem : (47 : UInt8) ∈ h ++ t := hinfix.subset (by decide)
    exact (List.mem_append.mp hmem).elim (hh.notMem (by decide)) hslash
  have hcontains : contains (str "https://" ++ (h ++ t)) (str "://") = true := by
    rw [contains, hcut]
    rfl
  have hplain' : contains (h ++ t) (str "://") = false := by
    rw [contains, hnone]
    rfl
  rw [getRoute] at hplain ⊢
  rw [haddr, hcontains, if_pos rfl, split_of_cut_some (by decide) hcut, split_of_cut_none hnone]
  rw [hplain', if_neg Bool.false_ne_true] at hplain
  exact hplain

theorem getRoute_addresses (hh : IsHostName h) {c : ClientControl} (haddr : c.addr ∈ addresses h) : getRoute c = h := by
  have hslash : (47 : UInt8) ∉ str ":55443" := by decide
  simp only [addresses, List.mem_cons, List.not_mem_nil, or_false] at haddr
  rcases haddr with haddr | haddr | haddr | haddr
  · exact getRoute_plain hh (Or.inl rfl) List.not_mem_nil (haddr.trans (List.append_nil _).symm)
  · exact getRoute_plain hh (Or.inr rfl) hslash haddr
  · exact getRoute_https hh (Or.inl rfl) List.not_mem_nil (haddr.trans (by rw [List.append_nil]))
  · exact getRoute_https hh (Or.inr rfl) hslash (haddr.trans (List.append_assoc _ _ _))

/-- **The addresses of a host are normalised exactly if the host is not read as a scheme.** -/
theorem normalises_iff (hparse : Parses parseUrl) (hh : IsHostName h) : Normalises parseUrl h ↔ isScheme h = false := by
  have hhost := isHost_of_isHostName hparse hh
  constructor
  · rintro ⟨hwrap, -⟩
    have hport := hwrap (h ++ str ":55443") (by simp [addresses])
    rw [wrap_port hparse hh] at hport
    split_ifs at hport with hscheme
    · -- one text is two bytes longer than the other
      have hlen := congrArg List.length hport
      simp [str] at hlen
    · exact Bool.eq_false_iff.mpr hscheme
  · intro hscheme
    obtain ⟨hbare, haddress⟩ := hhost.wrap_eq
    have hwrap : ∀ addr ∈ addresses h, wrap parseUrl addr = str "https://" ++ h ++ str ":55443" := by
      intro addr haddr
      simp only [addresses, List.mem_cons, List.not_mem_nil, or_false] at haddr
      rcases haddr with rfl | rfl | rfl | rfl
      · exact hbare
      · rw [wrap_port hparse hh, hscheme, if_neg Bool.false_ne_true]
      · exact wrap_https hparse hh
      · exact haddress
    refine ⟨hwrap, fun addr haddr => ?_, fun addr haddr => ?_, fun c addr haddr hc => ?_⟩
    · rw [hwrap addr haddr, haddress]
    · rw [hwrap addr haddr, hhost.wrapIPPort_eq]
    · rcases hc with rfl | hc
      · exact getRoute_addresses hh haddr
      · rw [hwrap addr haddr, List.append_assoc] at hc
        exact getRoute_https hh (Or.inr rfl) (by decide) hc

end Address

/-- `url.Parse`, with one text for all errors. -/
def sampleParseUrl (s : Str) : Except Str Url :=
  match urlParse s with
  | some u => .ok ⟨u.scheme, u.host, u.port⟩
  | none => .error (str "parse error")

theorem parses_sampleParseUrl : Parses sampleParseUrl := by
  intro s
  unfold sampleParseUrl
  cases urlParse s with
  | none => rfl
  | some u => rfl

theorem normalises_iff_ipv4 : Normalises sampleParseUrl (dotted [10, 0, 0, 1]) :=
  (normalises_iff parses_sampleParseUrl (isHostName_dotted rfl)).mpr (by decide)

/-- A name with a port gets a second port and no scheme. -/
theorem not_normalises_name : IsHostName (str "a.com") ∧
    wrap sampleParseUrl (str "a.com:55443") = str "a.com:55443:55443" ∧ ¬Normalises sampleParseUrl (str "a.com") := by
  have hwrap : wrap sampleParseUrl (str "a.com:55443") = str "a.com:55443:55443" := by decide
  refine ⟨⟨by decide, by decide +kernel⟩, hwrap, fun h => ?_⟩
  have haddress := h.wrap (str "a.com:55443") (List.mem_cons_of_mem _ List.mem_cons_self)
  rw [hwrap] at haddress
  exact absurd haddress (by decide)

end ProxyZ.Client
