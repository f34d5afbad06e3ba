import ProxyZ.Go.Text

/-!
# URLs

`url.Parse` of Go 1.22, as far as the scheme, the host and the port of the result and whether there is one.

A text is an address with a scheme where a colon stands behind letters, digits, `+`, `-` and `.`, a letter first
(`isScheme`). So a host name with a port is read as a scheme (`parse_named`), an IPv4 address with a port is not
read at all (`parse_unnamed`), and behind `https://` both are hosts (`parse_https`).
-/

namespace Go

/-- A `url.URL`. `host` holds the port too. -/
structure URL where
  scheme : Str
  host : Str
  deriving DecidableEq

/-- A part of a URL that is unescaped. -/
inductive Encoding
  | path
  | host
  | zone
  | userPassword
  | fragment
  deriving DecidableEq

def isLetter (c : UInt8) : Bool := (97 ≤ c && c ≤ 122) || (65 ≤ c && c ≤ 90)

/-- `strings.ToLower` of an ASCII text. -/
def toLower (s : Str) : Str := s.map fun c => if 65 ≤ c ∧ c ≤ 90 then c + 32 else c

/-- What stands in front of the separator: the first result of `strings.Cut`. -/
def before (sep s : Str) : Str := ((cut sep s).map Prod.fst).getD s

/-- The parts around the last `c`. -/
def cutLast (c : UInt8) (s : Str) : Option (Str × Str) := (cut [c] s.reverse).map fun p => (p.2.reverse, p.1.reverse)

/-- The loop of `getScheme` behind the bytes `scheme`; `none` is an error. -/
def getSchemeFrom (rawURL scheme : Str) : Str → Option (Str × Str)
  | [] => some ([], rawURL)
  | c :: rest =>
      if isLetter c then getSchemeFrom rawURL (scheme ++ [c]) rest
      else if isDigit c ∨ c = 43 ∨ c = 45 ∨ c = 46 then
        if scheme = [] then some ([], rawURL) else getSchemeFrom rawURL (scheme ++ [c]) rest
      else if c = 58 then if scheme = [] then none else some (scheme, rest)
      else some ([], rawURL)

/-- `getScheme`: the scheme and what stands behind it, or no scheme and the whole text. -/
def getScheme (rawURL : Str) : Option (Str × Str) := getSchemeFrom rawURL [] rawURL

def ishex (c : UInt8) : Bool := isDigit c || (97 ≤ c && c ≤ 102) || (65 ≤ c && c ≤ 70)

def unhex (c : UInt8) : UInt8 := if isDigit c then c - 48 else if 97 ≤ c ∧ c ≤ 102 then c - 87 else c - 55

/-- `shouldEscape` in a host or a zone. -/
def shouldEscape (c : UInt8) : Bool :=
  !(isLetter c || isDigit c || (str "!$&()*+,;=:[]<>-_.~").contains c || c = 39 || c = 34)

/-- Whether the byte `%ab` may stand in a part. -/
def mayEscape (mode : Encoding) (a b : UInt8) : Bool :=
  match mode with
  | .host => 8 ≤ unhex a || (a = 50 && b = 53)
  | .zone => (a = 50 && b = 53) || unhex a * 16 + unhex b = 32 || !shouldEscape (unhex a * 16 + unhex b)
  | _ => true

def unescape (mode : Encoding) : Str → Option Str
  | [] => some []
  | 37 :: a :: b :: rest =>
      if ishex a ∧ ishex b ∧ mayEscape mode a b then ((unhex a * 16 + unhex b) :: ·) <$> unescape mode rest else none
  | c :: rest =>
      if c = 37 then none
      else if (mode = .host ∨ mode = .zone) ∧ c < 128 ∧ shouldEscape c then none
      else (c :: ·) <$> unescape mode rest

def validOptionalPort : Str → Bool
  | [] => true
  | c :: digits => c = 58 && digits.all isDigit

def parseHost (host : Str) : Option Str :=
  if hasPrefix host (str "[") then
    match cutLast 93 host with
    | none => none
    | some (inside, colonPort) =>
        if validOptionalPort colonPort then
          match cut (str "%25") inside with
          | some (host1, zone) => do
              let host1 ← unescape .host host1
              let host2 ← unescape .zone (str "%25" ++ zone)
              let host3 ← unescape .host (93 :: colonPort)
              return host1 ++ host2 ++ host3
          | none => unescape .host host
        else none
  else
    match cutLast 58 host with
    | some (_, port) => if validOptionalPort (58 :: port) then unescape .host host else none
    | none => unescape .host host

def validUserinfo (s : Str) : Bool :=
  s.all fun c => isLetter c || isDigit c || (str "-._:~!$&()*+,;=%@").contains c || c = 39

/-- `parseAuthority`, without the user it finds. -/
def parseAuthority (authority : Str) : Option Str :=
  match cutLast 64 authority with
  | none => parseHost authority
  | some (userinfo, host) => do
      let host ← parseHost host
      if validUserinfo userinfo then do
        let (username, password) := (cut (str ":") userinfo).getD (userinfo, [])
        let _username ← unescape .userPassword username
        let _password ← unescape .userPassword password
        return host
      else none

/-- `parse`: a URL without a fragment. -/
def URL.parse (rawURL : Str) : Option URL :=
  if rawURL.any fun c => c < 32 || c = 127 then none
  else if rawURL = str "*" then some ⟨[], []⟩
  else do
    let (scheme, rest) ← getScheme rawURL
    let scheme := toLower scheme
    let rest := before (str "?") rest
    if hasPrefix rest (str "/") = false ∧ scheme ≠ [] then return ⟨scheme, []⟩
    else if hasPrefix rest (str "/") = false ∧ contains (before (str "/") rest) (str ":") then none
    else if (scheme ≠ [] ∨ hasPrefix rest (str "///") = false) ∧ hasPrefix rest (str "//") then do
      let authority := before (str "/") (rest.drop 2)
      let host ← parseAuthority authority
      let _path ← unescape .path ((rest.drop 2).drop authority.length)
      return ⟨scheme, host⟩
    else do
      let _path ← unescape .path rest
      return ⟨scheme, []⟩

/-- `url.Parse`; `none` is an error. -/
def urlParse (rawURL : Str) : Option URL :=
  match cut (str "#") rawURL with
  | none => URL.parse rawURL
  | some (u, frag) => do
      let url ← URL.parse u
      let _fragment ← unescape .fragment frag
      return url

/-- `u.Port()`. -/
def URL.port (u : URL) : Str :=
  match cutLast 58 u.host with
  | some (_, port) => if validOptionalPort (58 :: port) then port else []
  | none => []

/-- The bytes of a scheme behind the first one. -/
def isSchemeByte (c : UInt8) : Bool := isLetter c || isDigit c || c = 43 || c = 45 || c = 46

/-- A text that is read as a scheme where a colon stands behind it. -/
def isScheme : Str → Bool
  | [] => false
  | c :: rest => isLetter c && rest.all isSchemeByte

/-- The bytes of IPv4 addresses and DNS names. -/
def isHostByte (c : UInt8) : Bool := isLetter c || isDigit c || c = 45 || c = 46 || c = 95

/-- A host without scheme and port: an IPv4 address, or a DNS name. -/
structure IsHostName (h : Str) : Prop where
  nonempty : h ≠ []
  bytes : ∀ c ∈ h, isHostByte c = true

example : urlParse (str "https://a.com:55443") = some ⟨str "https", str "a.com:55443"⟩ := by decide
example : urlParse (str "a.com:55443") = some ⟨str "a.com", []⟩ := by decide
example : urlParse (str "1.2.3.4:55443") = none := by decide
example : urlParse (str "https://u@[fe80::1%25en0]:80/x%20y?q#f") = some ⟨str "https", str "[fe80::1%en0]:80"⟩ := by
  decide

/-! ### Hosts -/

section Hosts

variable {h s rest : Str} {c : UInt8}

theorem forall_byte {P : UInt8 → Prop} (hall : ∀ n < 256, P (UInt8.ofNat n)) (c : UInt8) : P c := by
  have hc := hall c.toNat c.toNat_lt
  rwa [UInt8.ofNat_toNat] at hc

theorem isHostByte_spec : ∀ c, isHostByte c = true →
    32 ≤ c ∧ c ≠ 127 ∧ c < 128 ∧ shouldEscape c = false ∧ c ∉ [35, 37, 42, 47, 58, 63, 64, 91, 93] :=
  forall_byte (by decide +kernel)

/-- A byte of a host needs no escape. -/
theorem isHostByte_plain (hc : isHostByte c = true) : c ≠ 37 ∧ shouldEscape c = false := by
  obtain ⟨-, -, -, hescape, hspecial⟩ := isHostByte_spec c hc
  refine ⟨?_, hescape⟩
  rintro rfl
  exact hspecial (by decide)

theorem isSchemeByte_iff : isSchemeByte c = true ↔ isLetter c = true ∨ isDigit c ∨ c = 43 ∨ c = 45 ∨ c = 46 := by
  simp [isSchemeByte, or_assoc]

theorem isDigit_isHostByte : ∀ c, isDigit c = true → isHostByte c = true :=
  forall_byte (by decide +kernel)

/-- What is cut off at the end. -/
theorem cutLast_append (a : Str) {b : Str} (hb : c ∉ b) : cutLast c (a ++ c :: b) = some (a, b) := by
  have hrev : (a ++ c :: b).reverse = b.reverse ++ c :: a.reverse := by simp
  rw [cutLast, hrev, cut_singleton _ (by rwa [List.mem_reverse])]
  simp

theorem cutLast_none (hs : c ∉ s) : cutLast c s = none := by
  rw [cutLast, cut_singleton_none (by rwa [List.mem_reverse])]
  rfl

theorem before_of_notMem (hs : c ∉ s) : before [c] s = s := by
  rw [before, cut_singleton_none hs]
  rfl

theorem not_hasPrefix_of_notMem (hs : c ∉ s) (t : Str) : hasPrefix s (c :: t) = false := by
  rw [Bool.eq_false_iff, ne_eq, hasPrefix_iff]
  rintro ⟨u, rfl⟩
  exact hs List.mem_cons_self

theorem unescape_cons (mode : Encoding) (hc : c ≠ 37) (s : Str) :
    unescape mode (c :: s) =
      if (mode = .host ∨ mode = .zone) ∧ c < 128 ∧ shouldEscape c then none else (c :: ·) <$> unescape mode s := by
  rw [unescape.eq_def mode (c :: s)]
  split
  · next h => cases h
  · next h => exact absurd (List.cons.inj h).1 hc
  · next h =>
    obtain ⟨rfl, rfl⟩ := List.cons.inj h
    rw [if_neg hc]

/-- What needs no escape is its own text. -/
theorem unescape_eq (mode : Encoding) (hs : ∀ c ∈ s, c ≠ 37 ∧ shouldEscape c = false) : unescape mode s = some s := by
  induction s with
  | nil => rfl
  | cons c s ih =>
    obtain ⟨hpercent, hc⟩ := hs c List.mem_cons_self
    rw [unescape_cons mode hpercent, if_neg (by rw [hc]; simp), ih fun d hd => hs d (List.mem_cons_of_mem c hd)]
    rfl

/-! ### Schemes -/

/-- The loop goes on behind a byte of a scheme, which at the first place is a letter. -/
theorem getSchemeFrom_cons {rawURL scheme : Str} (hc : c ≠ 58) (s : Str) :
    getSchemeFrom rawURL scheme (c :: s) =
      if isSchemeByte c = true ∧ (scheme ≠ [] ∨ isLetter c = true) then getSchemeFrom rawURL (scheme ++ [c]) s
      else some ([], rawURL) := by
  have hbyte := isSchemeByte_iff (c := c)
  rw [getSchemeFrom]
  by_cases hletter : isLetter c = true
  · rw [if_pos hletter, if_pos ⟨hbyte.mpr (Or.inl hletter), Or.inr hletter⟩]
  by_cases hother : isDigit c ∨ c = 43 ∨ c = 45 ∨ c = 46
  · rw [if_neg hletter, if_pos hother]
    by_cases hscheme : scheme = []
    · rw [if_pos hscheme, if_neg fun h => h.2.elim (fun hne => hne hscheme) hletter]
    · rw [if_neg hscheme, if_pos ⟨hbyte.mpr (Or.inr hother), Or.inl hscheme⟩]
  · rw [if_neg hletter, if_neg hother, if_neg hc, if_neg fun h => (hbyte.mp h.1).elim hletter hother]

theorem getSchemeFrom_scheme {rawURL scheme : Str} (hscheme : scheme ≠ []) (hs : ∀ c ∈ s, isSchemeByte c = true) :
    getSchemeFrom rawURL scheme (s ++ 58 :: rest) = some (scheme ++ s, rest) := by
  induction s generalizing scheme with
  | nil =>
    rw [List.nil_append, getSchemeFrom, if_neg (by decide), if_neg (by decide), if_pos rfl, if_neg hscheme,
      List.append_nil]
  | cons c s ih =>
    have hbyte := hs c List.mem_cons_self
    have hcolon : c ≠ 58 := by
      rintro rfl
      exact absurd hbyte (by decide)
    have htail := @ih (scheme ++ [c]) (by simp) fun d hd => hs d (List.mem_cons_of_mem c hd)
    rw [List.cons_append, getSchemeFrom_cons hcolon, if_pos ⟨hbyte, Or.inl hscheme⟩, htail, List.append_assoc,
      List.singleton_append]

theorem getScheme_of_isScheme (hs : isScheme s = true) (rest : Str) :
    getScheme (s ++ 58 :: rest) = some (s, rest) := by
  cases s with
  | nil => cases hs
  | cons c s =>
    obtain ⟨hletter, hall⟩ := Bool.and_eq_true_iff.mp hs
    rw [getScheme, List.cons_append, getSchemeFrom, if_pos hletter,
      getSchemeFrom_scheme (by simp) (List.all_eq_true.mp hall)]
    rfl

/-- Where the text is no scheme the colon behind it is not reached. -/
theorem getSchemeFrom_of_not {rawURL scheme : Str} (hcolon : (58 : UInt8) ∉ s)
    (hs : scheme ≠ [] → s.all isSchemeByte = false) (hfirst : scheme = [] → s ≠ [] ∧ isScheme s = false) :
    getSchemeFrom rawURL scheme (s ++ 58 :: rest) = some ([], rawURL) := by
  induction s generalizing scheme with
  | nil =>
    by_cases hscheme : scheme = []
    · exact absurd rfl (hfirst hscheme).1
    · cases hs hscheme
  | cons c s ih =>
    rw [List.mem_cons, not_or] at hcolon
    obtain ⟨hc, htail⟩ := hcolon
    rw [List.cons_append, getSchemeFrom_cons (Ne.symm hc)]
    split_ifs with hstep
    · refine ih htail (fun _ => ?_) fun h => absurd h (by simp)
      by_cases hscheme : scheme = []
      · have hletter : isLetter c = true := hstep.2.resolve_left fun hne => hne hscheme
        have hnot := (hfirst hscheme).2
        rw [isScheme, hletter, Bool.true_and] at hnot
        exact hnot
      · have hnot := hs hscheme
        rw [List.all_cons, hstep.1, Bool.true_and] at hnot
        exact hnot
    · rfl

theorem getSchemeFrom_bare {rawURL scheme : Str} (hcolon : (58 : UInt8) ∉ s) :
    getSchemeFrom rawURL scheme s = some ([], rawURL) := by
  induction s generalizing scheme with
  | nil => rfl
  | cons c s ih =>
    rw [List.mem_cons, not_or] at hcolon
    obtain ⟨hc, htail⟩ := hcolon
    rw [getSchemeFrom_cons (Ne.symm hc), ih htail, ite_self]

/-! ### Addresses -/

theorem IsHostName.notMem (hh : IsHostName h) (hc : isHostByte c = false) : c ∉ h := by
  intro hmem
  rw [hh.bytes c hmem] at hc
  cases hc

theorem IsHostName.unescape_eq (hh : IsHostName h) (mode : Encoding) : unescape mode h = some h := by
  exact Go.unescape_eq mode fun c hc => isHostByte_plain (hh.bytes c hc)

/-- A text without control bytes and without a fragment is parsed by `parse`. -/
theorem urlParse_eq (hs : (35 : UInt8) ∉ s) : urlParse s = URL.parse s := by
  rw [urlParse, show str "#" = [35] from rfl, cut_singleton_none hs]

theorem IsHostName.parse_body (hh : IsHostName h) (hport : ∀ c ∈ rest, isDigit c = true ∨ c = 58) :
    (35 : UInt8) ∉ h ++ rest ∧ ((h ++ rest).any fun c => c < 32 || c = 127) = false ∧ h ++ rest ≠ str "*" ∧
      (63 : UInt8) ∉ h ++ rest ∧ (47 : UInt8) ∉ h ++ rest := by
  have hbytes : ∀ c ∈ h ++ rest, isHostByte c = true ∨ c = 58 := by
    intro c hc
    rcases List.mem_append.mp hc with hc | hc
    · exact Or.inl (hh.bytes c hc)
    · exact (hport c hc).imp_left (isDigit_isHostByte c)
  have hnot : ∀ d : UInt8, isHostByte d = false → d ≠ 58 → d ∉ h ++ rest := by
    intro d hd hcolon hmem
    rcases hbytes d hmem with h | h
    · rw [hd] at h
      cases h
    · exact hcolon h
  refine ⟨hnot 35 (by decide) (by decide), ?_, fun heq => ?_, hnot 63 (by decide) (by decide),
    hnot 47 (by decide) (by decide)⟩
  · rw [List.any_eq_false]
    intro c hc
    rcases hbytes c hc with h | rfl
    · obtain ⟨hlow, hdel, -⟩ := isHostByte_spec c h
      simp [UInt8.not_lt.mpr hlow, hdel]
    · decide
  · exact hnot 42 (by decide) (by decide) (heq ▸ List.mem_singleton_self 42)

theorem port_bytes (hport : ∀ c ∈ rest, isDigit c = true) : ∀ c ∈ 58 :: rest, isDigit c = true ∨ c = 58 := by
  intro c hc
  rcases List.mem_cons.mp hc with rfl | hc
  · exact Or.inr rfl
  · exact Or.inl (hport c hc)

/-- A host alone is a path. -/
theorem IsHostName.parse_bare (hh : IsHostName h) : urlParse h = some ⟨[], []⟩ := by
  have hnone : ∀ c ∈ ([] : Str), isDigit c = true ∨ c = 58 := fun c hc => absurd hc List.not_mem_nil
  obtain ⟨hfrag, hctl, hstar, hquery, hslash⟩ := hh.parse_body hnone
  rw [List.append_nil] at hfrag hctl hstar hquery hslash
  have hcolon : contains h (str ":") = false := by
    rw [Bool.eq_false_iff, ne_eq, show str ":" = [58] from rfl, contains_singleton]
    exact hh.notMem (by decide)
  rw [urlParse_eq hfrag, URL.parse, if_neg (by rw [hctl]; exact Bool.false_ne_true), if_neg hstar, getScheme,
    getSchemeFrom_bare (hh.notMem (by decide))]
  simp only [Option.bind_eq_bind, Option.bind_some, show toLower ([] : Str) = [] from rfl,
    show str "?" = [63] from rfl, show str "/" = [47] from rfl, before_of_notMem hquery, before_of_notMem hslash]
  rw [if_neg (by simp), if_neg (by rw [hcolon]; simp),
    if_neg (by rw [show str "//" = 47 :: [47] from rfl, not_hasPrefix_of_notMem hslash]; simp), hh.unescape_eq]
  rfl

/-- A host with a port is read as a scheme and what stands behind it, where it is a scheme. -/
theorem IsHostName.parse_named (hh : IsHostName h) (hscheme : isScheme h = true)
    (hport : ∀ c ∈ rest, isDigit c = true) : urlParse (h ++ 58 :: rest) = some ⟨toLower h, []⟩ := by
  obtain ⟨hfrag, hctl, hstar, hquery, hslash⟩ := hh.parse_body (port_bytes hport)
  have hrest : ∀ d : UInt8, d ∉ h ++ 58 :: rest → d ∉ rest := fun d hd hmem =>
    hd (List.mem_append_right h (List.mem_cons_of_mem 58 hmem))
  have hlower : toLower h ≠ [] := fun hnil => hh.nonempty (List.map_eq_nil_iff.mp hnil)
  rw [urlParse_eq hfrag, URL.parse, if_neg (by rw [hctl]; exact Bool.false_ne_true), if_neg hstar,
    getScheme_of_isScheme hscheme]
  simp only [Option.bind_eq_bind, Option.bind_some, show str "?" = [63] from rfl, show str "/" = [47] from rfl,
    before_of_notMem (hrest 63 hquery)]
  rw [if_pos ⟨not_hasPrefix_of_notMem (hrest 47 hslash) [], hlower⟩]
  rfl

/-- Where it is none the colon stands in the first segment of a path. -/
theorem IsHostName.parse_unnamed (hh : IsHostName h) (hscheme : isScheme h = false)
    (hport : ∀ c ∈ rest, isDigit c = true) : urlParse (h ++ 58 :: rest) = none := by
  obtain ⟨hfrag, hctl, hstar, hquery, hslash⟩ := hh.parse_body (port_bytes hport)
  have hcolon : contains (h ++ 58 :: rest) (str ":") = true := by
    rw [show str ":" = [58] from rfl, contains_singleton]
    exact List.mem_append_right h List.mem_cons_self
  rw [urlParse_eq hfrag, URL.parse, if_neg (by rw [hctl]; exact Bool.false_ne_true), if_neg hstar, getScheme,
    getSchemeFrom_of_not (hh.notMem (by decide)) (fun h => absurd rfl h) fun _ => ⟨hh.nonempty, hscheme⟩]
  simp only [Option.bind_eq_bind, Option.bind_some, show toLower ([] : Str) = [] from rfl,
    show str "?" = [63] from rfl, show str "/" = [47] from rfl, before_of_notMem hquery, before_of_notMem hslash]
  rw [if_neg (by simp), if_pos ⟨not_hasPrefix_of_notMem hslash [], hcolon⟩]

/-- Behind `https://` the host is a host. -/
theorem IsHostName.parse_https (hh : IsHostName h) :
    urlParse (str "https://" ++ h) = some ⟨str "https", h⟩ ∧
      urlParse (str "https://" ++ h ++ str ":55443") = some ⟨str "https", h ++ str ":55443"⟩ := by
  have hscheme : ∀ t, str "https://" ++ t = str "https" ++ 58 :: (str "//" ++ t) := fun _ => rfl
  -- what stands behind the host is cut off as a port or not at all
  have hauthority : ∀ t : Str, (∀ c ∈ t, isDigit c = true ∨ c = 58) → parseHost (h ++ t) = some (h ++ t) →
      urlParse (str "https://" ++ (h ++ t)) = some ⟨str "https", h ++ t⟩ := by
    intro t ht hhost
    obtain ⟨hfrag, hctl, -, hquery, hslash⟩ := hh.parse_body ht
    have hat : (64 : UInt8) ∉ h ++ t := by
      intro hmem
      rcases List.mem_append.mp hmem with hmem | hmem
      · exact hh.notMem (by decide) hmem
      · exact absurd (ht 64 hmem) (by decide)
    have hbehind : ∀ d : UInt8, d ∉ h ++ t → d ∉ str "//" → d ∉ str "//" ++ (h ++ t) := fun d hd hslashes hmem =>
      (List.mem_append.mp hmem).elim hslashes hd
    have hprefix : hasPrefix (str "//" ++ (h ++ t)) (str "//") = true := hasPrefix_append _ _
    have hprefix' : hasPrefix (str "//" ++ (h ++ t)) (str "/") = true := hasPrefix_append (str "/") _
    have hdrop : (str "//" ++ (h ++ t)).drop 2 = h ++ t := rfl
    rw [urlParse_eq (by rw [List.mem_append, not_or]; exact ⟨by decide, hfrag⟩), URL.parse,
      if_neg (by rw [List.any_append, hctl]; decide), if_neg (by intro h; cases h), hscheme,
      getScheme_of_isScheme (by decide)]
    simp only [Option.bind_eq_bind, Option.bind_some, show toLower (str "https") = str "https" from rfl,
      show str "?" = [63] from rfl, before_of_notMem (hbehind 63 hquery (by decide))]
    rw [hprefix', if_neg (by simp), if_neg (by simp), if_pos ⟨Or.inl (by decide), hprefix⟩, hdrop,
      show str "/" = [47] from rfl, before_of_notMem hslash, parseAuthority, cutLast_none hat]
    simp only [hhost, Option.bind_some, List.drop_length]
    rfl
  have hbracket : ∀ t, hasPrefix (h ++ t) (str "[") = false := by
    intro t
    obtain ⟨d, h', rfl⟩ := List.exists_cons_of_ne_nil hh.nonempty
    refine hasPrefix_cons_ne _ _ ?_
    rintro rfl
    exact hh.notMem (by decide) List.mem_cons_self
  constructor
  · have hhost : parseHost (h ++ []) = some (h ++ []) := by
      rw [parseHost, hbracket, if_neg Bool.false_ne_true, List.append_nil, cutLast_none (hh.notMem (by decide))]
      exact hh.unescape_eq .host
    rw [← List.append_nil h]
    exact hauthority [] (fun c hc => absurd hc List.not_mem_nil) hhost
  · have hhost : parseHost (h ++ str ":55443") = some (h ++ str ":55443") := by
      rw [parseHost, hbracket, if_neg Bool.false_ne_true, show str ":55443" = 58 :: str "55443" from rfl,
        cutLast_append h (by decide)]
      dsimp only
      rw [if_pos (by decide)]
      refine Go.unescape_eq .host fun c hc => ?_
      rcases List.mem_append.mp hc with hc | hc
      · exact isHostByte_plain (hh.bytes c hc)
      · exact (by decide +kernel : ∀ c ∈ 58 :: str "55443", c ≠ 37 ∧ shouldEscape c = false) c hc
    rw [List.append_assoc]
    exact hauthority (str ":55443") (by decide +kernel) hhost

theorem isHostName_dotted {ip : IP} (hip : ip.length = 4) : IsHostName (dotted ip) := by
  obtain ⟨a, b, c, d, rfl⟩ := List.length_eq_four.mp hip
  rw [dotted_four]
  refine ⟨by simp [itoa_ne_nil], fun e he => ?_⟩
  have hdot : ∀ e ∈ str ".", isHostByte e = true := by decide +kernel
  have hdigits : ∀ n, ∀ e ∈ itoa n, isHostByte e = true := fun n e he => isDigit_isHostByte e (isDigit_of_mem_itoa he)
  simp only [List.mem_append] at he
  rcases he with (((((he | he) | he) | he) | he) | he) | he
  · exact hdigits _ e he
  · exact hdot e he
  · exact hdigits _ e he
  · exact hdot e he
  · exact hdigits _ e he
  · exact hdot e he
  · exact hdigits _ e he

/-- Labels with dots between them. -/
theorem isHostName_labels {labels : List Str} (hne : labels ≠ [])
    (hlabels : ∀ l ∈ labels, l ≠ [] ∧ ∀ c ∈ l, isHostByte c = true) : IsHostName ((str ".").intercalate labels) := by
  obtain ⟨l, more, rfl⟩ := List.exists_cons_of_ne_nil hne
  refine ⟨intercalate_ne_nil (hlabels l List.mem_cons_self).1 more, fun c hc => ?_⟩
  by_cases hdot : c = 46
  · rw [hdot]
    decide
  · obtain ⟨l', hl', hc⟩ := (mem_intercalate_of_ne hdot).mp hc
    exact (hlabels l' hl').2 c hc

end Hosts

end Go
