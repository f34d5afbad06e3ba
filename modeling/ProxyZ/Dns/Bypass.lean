import ProxyZ.Dns.Lan
import ProxyZ.Dns.Rules
import ProxyZ.Go.Threads

/-!
# Addresses of bypassed names

`ResolveLocal` keeps the addresses of a name in the cache and marks them in the table of local hosts, so that a
connection to one of them is dialled directly. The cache is emptied by `Clear`, and its records expire. The table
is emptied by `LoadLocalRule`, which leaves the cache as it is: behind a change of the rules the cache can still
hand out addresses that are no longer marked.

In a run of these calls the cached addresses stay local exactly if each load finds only such addresses in the
cache as a rule of its file or an earlier pattern matches (`staysLocal_iff`).
-/

namespace ProxyZ.Dns

open Go Method

/-- The variables of the package, and the time. -/
structure Package (ρ : Type) where
  resolver : Resolver ρ := {}
  fuzzyHost : List Str := []
  clock : Int := 0

namespace Package

variable {ρ : Type}

def rules (s : Package ρ) : Rules := ⟨s.resolver.local2host, s.fuzzyHost⟩

def loadLocalRule (file : Option (List Str)) (s : Package ρ) : Package ρ :=
  let t := Dns.loadLocalRule file s.rules
  { s with resolver := { s.resolver with local2host := t.local2host }, fuzzyHost := t.fuzzyHost }

/-- `Clear`: a new cache, and the rules of `local.conf`. -/
def clear (file : Option (List Str)) (s : Package ρ) : Package ρ :=
  loadLocalRule file { s with resolver := { s.resolver with domainsToAddresses := ∅ } }

end Package

/-- Time passes, or one of the calls is made. The world of a call has the time of the clock. -/
inductive CacheOp (ρ : Type)
  | wait (t : Int)
  | resolveLocal (w : World ρ) (msg : Msg ρ)
  | resolveCache (w : World ρ) (msg : Msg ρ)
  | loadLocalRule (file : Option (List Str))
  | clear (file : Option (List Str))

/-- A step of a run. A call of `ResolveLocal` is one that succeeds. -/
def cacheStep? {ρ : Type} (s : Package ρ) : CacheOp ρ → Option (Package ρ)
  | .wait t => if s.clock ≤ t then some { s with clock := t } else none
  | .resolveLocal w msg =>
      if w.now 0 = s.clock then
        match resolveLocal w msg s.resolver with
        | .ok (true, resolver) => some { s with resolver }
        | _ => none
      else none
  | .resolveCache w msg =>
      if w.now 0 = s.clock then
        match resolveCache w msg s.resolver with
        | .ok (_, resolver) => some { s with resolver }
        | _ => none
      else none
  | .loadLocalRule file => some (s.loadLocalRule file)
  | .clear file => some (s.clear file)

/-- What `Socks5Listen` does with a request. -/
inductive Dial
  | direct (addr : Str)
  | config
  | remote
  deriving DecidableEq, Repr

/-- The bypass of `Socks5Listen`, for requests with an IPv4 address. -/
def socks5Dial (re : Regexp) (t : Rules) (raw : Bytes) : Dial :=
  if 9 < raw.length ∧ raw[0]? = some 5 ∧ raw[3]? = some 1 then
    let ip := ipString ((raw.drop 4).take 4)
    if isLocal re t ip then .direct (ip ++ str ":" ++ itoa (uint16 (raw.getD 8 0) (raw.getD 9 0)))
    else if ip = str "99.254.254.254" then .config
    else .remote
  else .remote

/-- A request for the IPv4 address with the text `ip`. -/
def RequestFor (ip : Str) (raw : Bytes) : Prop :=
  9 < raw.length ∧ raw[0]? = some 5 ∧ raw[3]? = some 1 ∧ ipString ((raw.drop 4).take 4) = ip

/-- **Cached local names stay local**: each address in a record that has not expired is local, and a request for it
is dialled directly. -/
def StaysLocal {ρ : Type} (re : Regexp) (s : Package ρ) : Prop :=
  ∀ domain r ip, s.resolver.domainsToAddresses.lookup domain = some r → s.clock < r.timeout → ip ∈ r.ips →
    isLocal re s.rules ip = true ∧ ∀ raw, RequestFor ip raw → ∃ addr, socks5Dial re s.rules raw = .direct addr

/-- A load finds only such addresses in the cache as a rule of the file or an earlier pattern matches. -/
def Covered {ρ : Type} (re : Regexp) (s : Package ρ) : CacheOp ρ → Prop
  | .loadLocalRule (some lines) =>
      ∀ domain r ip, s.resolver.domainsToAddresses.lookup domain = some r → s.clock < r.timeout → ip ∈ r.ips →
        Matched re lines ip ∨ ∃ i ∈ s.fuzzyHost, fuzzyMatches re ip i = true
  | _ => True

/-! ### The calls -/

section Calls

variable {ρ : Type} {w : World ρ} {msg : Msg ρ} {s s' : Resolver ρ} {b : Bool}

theorem mem_insertAll {ips : List Str} {domain k : Str} {d : Dict Str} :
    k ∈ insertAll ips domain d ↔ k ∈ ips ∨ k ∈ d := by
  unfold insertAll
  induction ips generalizing d with
  | nil => exact ⟨Or.inr, fun h => h.resolve_left List.not_mem_nil⟩
  | cons i rest ih =>
    rw [List.foldl_cons, ih, AList.mem_insert, List.mem_cons, or_left_comm, or_assoc]

/-- A call that returns has found a question. -/
theorem firstQuestion_bind {α : Type} {f : Question → Method (Resolver ρ) α} {res : α × Resolver ρ}
    (h : (firstQuestion msg >>= f) s = .ok res) : ∃ q, f q s = .ok res := by
  rcases hq : msg.question with _ | ⟨q, rest⟩
  · unfold firstQuestion at h
    rw [hq] at h
    cases h
  · rw [bind_apply_ok _ (firstQuestion_eq hq s)] at h
    exact ⟨q, h⟩

/-- A call marks the addresses it keeps in the cache, and leaves those marked that are. -/
structure Marks (s s' : Resolver ρ) : Prop where
  hosts : ∀ k ∈ s.local2host, k ∈ s'.local2host
  cached : ∀ domain r, s'.domainsToAddresses.lookup domain = some r →
    s.domainsToAddresses.lookup domain = some r ∨ ∀ ip ∈ r.ips, ip ∈ s'.local2host

/-- **A successful `ResolveLocal`** keeps a record of one name and marks its addresses. -/
theorem resolveLocal_marks (h : resolveLocal w msg s = .ok (true, s')) : Marks s s' := by
  obtain ⟨⟨r, err⟩, hreply⟩ := replyDNS_isSome w.codec w.lookupIP (packDNS w.codec msg)
  obtain ⟨res, hres⟩ := unpackDNS_isSome w.codec r
  unfold resolveLocal at h
  obtain ⟨q, h⟩ := firstQuestion_bind h
  rw [hreply] at h
  rcases err with _ | err
  · dsimp only at h
    rw [hres] at h
    rcases res with err | replymsg
    · cases h
    · dsimp only at h
      split_ifs at h
      · cases h
      · cases h
        refine ⟨fun k hk => mem_insertAll.mpr (Or.inr hk), fun domain r hr => ?_⟩
        by_cases hdomain : domain = q.name
        · subst hdomain
          cases (AList.lookup_insert _).symm.trans hr
          exact Or.inr fun ip hip => mem_insertAll.mpr (Or.inl hip)
        · exact Or.inl ((AList.lookup_insert_ne hdomain).symm.trans hr)
  · cases h

/-- A lookup changes nothing but the cache, from which it takes a record that has expired. -/
theorem resolveCache_marks (h : resolveCache w msg s = .ok (b, s')) : Marks s s' := by
  unfold resolveCache at h
  obtain ⟨q, h⟩ := firstQuestion_bind h
  rw [get_bind_apply] at h
  rcases hlookup : s.domainsToAddresses.lookup q.name with _ | addressR
  · rw [hlookup] at h
    cases h
    exact ⟨fun _ hk => hk, fun _ _ hr => Or.inl hr⟩
  · rw [hlookup] at h
    dsimp only at h
    split_ifs at h
    · cases h
      exact ⟨fun _ hk => hk, fun _ _ hr => Or.inl hr⟩
    · cases h
      refine ⟨fun _ hk => hk, fun domain r hr => Or.inl ?_⟩
      by_cases hdomain : domain = q.name
      · subst hdomain
        cases (AList.lookup_erase _ _).symm.trans hr
      · exact (AList.lookup_erase_ne hdomain).symm.trans hr

end Calls

/-! ### Runs -/

section Runs

variable {ρ : Type} {re : Regexp} {s s' : Package ρ} {a : CacheOp ρ}

/-- A request for a local address is dialled directly, with the port of the request. -/
theorem socks5Dial_of_isLocal {t : Rules} {ip : Str} {raw : Bytes} (hip : isLocal re t ip = true)
    (hraw : RequestFor ip raw) :
    socks5Dial re t raw = .direct (ip ++ str ":" ++ itoa (uint16 (raw.getD 8 0) (raw.getD 9 0))) := by
  obtain ⟨hlen, hversion, htype, haddr⟩ := hraw
  unfold socks5Dial
  rw [if_pos ⟨hlen, hversion, htype⟩, haddr]
  exact if_pos hip

/-- The addresses of the records that have not expired. -/
def Cached (s : Package ρ) (ip : Str) : Prop :=
  ∃ domain r, s.resolver.domainsToAddresses.lookup domain = some r ∧ s.clock < r.timeout ∧ ip ∈ r.ips

theorem staysLocal_iff_isLocal : StaysLocal re s ↔ ∀ ip, Cached s ip → isLocal re s.rules ip = true := by
  constructor
  · rintro h ip ⟨domain, r, hr, hclock, hip⟩
    exact (h domain r ip hr hclock hip).1
  · intro h domain r ip hr hclock hip
    have hlocal := h ip ⟨domain, r, hr, hclock, hip⟩
    exact ⟨hlocal, fun raw hraw => ⟨_, socks5Dial_of_isLocal hlocal hraw⟩⟩

/-- What is marked stays so, and what a call adds to the cache is marked. -/
theorem Marks.staysLocal {resolver : Resolver ρ} (hmarks : Marks s.resolver resolver) (h : StaysLocal re s) :
    StaysLocal re { s with resolver } := by
  rw [staysLocal_iff_isLocal] at h ⊢
  rintro ip ⟨domain, r, hr, hclock, hip⟩
  rw [isLocal_iff]
  rcases hmarks.cached domain r hr with hold | hnew
  · have hlocal := isLocal_iff.mp (h ip ⟨domain, r, hold, hclock, hip⟩)
    exact hlocal.imp_left (hmarks.hosts ip)
  · exact Or.inl (hnew ip hip)

/-- **A step keeps the cached addresses local if and only if it is not a load that forgets one of them.** -/
theorem staysLocal_step (h : StaysLocal re s) (hs : cacheStep? s a = some s') : StaysLocal re s' ↔ Covered re s a := by
  cases a with
  | wait t =>
    simp only [cacheStep?, Option.ite_none_right_eq_some, Option.some.injEq] at hs
    obtain ⟨hclock, rfl⟩ := hs
    refine iff_of_true ?_ trivial
    intro domain r ip hr hlt hip
    exact h domain r ip hr (lt_of_le_of_lt hclock hlt) hip
  | resolveLocal w msg =>
    simp only [cacheStep?, Option.ite_none_right_eq_some] at hs
    obtain ⟨-, hs⟩ := hs
    split at hs
    · next resolver hcall =>
      cases hs
      exact iff_of_true ((resolveLocal_marks hcall).staysLocal h) trivial
    · cases hs
  | resolveCache w msg =>
    simp only [cacheStep?, Option.ite_none_right_eq_some] at hs
    obtain ⟨-, hs⟩ := hs
    split at hs
    · next b resolver hcall =>
      cases hs
      exact iff_of_true ((resolveCache_marks hcall).staysLocal h) trivial
    · cases hs
  | loadLocalRule file =>
    cases hs
    cases file with
    | none => exact iff_of_true h trivial
    | some lines =>
      rw [staysLocal_iff_isLocal]
      constructor
      · intro h' domain r ip hr hlt hip
        exact (isLocal_load_iff lines).mp (h' ip ⟨domain, r, hr, hlt, hip⟩)
      · rintro hcovered ip ⟨domain, r, hr, hlt, hip⟩
        exact (isLocal_load_iff lines).mpr (hcovered domain r ip hr hlt hip)
  | clear file =>
    cases hs
    refine iff_of_true ?_ trivial
    intro domain r ip hr
    cases hr

/-- **The cached addresses stay local in a run exactly if no load forgets one of them.** -/
theorem staysLocal_iff (re : Regexp) (acts : List (CacheOp ρ)) :
    AllSteps cacheStep? (fun _ _ s' => StaysLocal re s') acts {} ↔
      AllSteps cacheStep? (fun s a _ => Covered re s a) acts {} := by
  have hempty : StaysLocal re ({} : Package ρ) := nofun
  exact allSteps_iff (I := StaysLocal re) (fun _ _ _ h hs => staysLocal_step h hs) (fun _ _ _ _ _ h => h) hempty acts

end Runs

/-! ### The same rules twice -/

/-- The answer of the local resolver to a query for `a.example.`. -/
def shortAnswer : Msg (Nat × Nat) := { shortQuery with answer := addressRecords (str "a.example") [[192, 0, 2, 1]] }

/-- A host that knows the address of `a.example`, and the DNS library on the query and its answer. -/
def localWorld : World (Nat × Nat) :=
  { echoWorld with
    codec :=
      { pack := fun m =>
          if m = shortQuery then .ok [1] else if m = shortAnswer then .ok [2]
          else .error (.text (str "dns: not packed here"))
        unpack := fun b =>
          if b = [1] then .ok shortQuery else if b = [2] then .ok shortAnswer
          else .error (.text (str "dns: not unpacked here")) }
    isLocal := fun _ => true
    lookupIP := fun _ => .ok [[192, 0, 2, 1]] }

/-- The rules are set once more behind the resolution of a name they bypass: its address is forgotten. -/
theorem not_staysLocal_reload :
    ¬AllSteps cacheStep? (fun _ _ s' => StaysLocal hostRegexp s')
      [.loadLocalRule (some [str "*.example"]), .resolveLocal localWorld shortQuery,
        .loadLocalRule (some [str "*.example"])] {} := by
  intro h
  obtain ⟨-, h⟩ := h _ rfl
  obtain ⟨-, h⟩ := h _ rfl
  obtain ⟨hstays, -⟩ := h _ rfl
  have hlocal := (hstays (str "a.example.") ⟨[], [str "192.0.2.1"], 60 * minute⟩ (str "192.0.2.1") rfl (by decide)
    (List.mem_singleton_self _)).1
  exact absurd hlocal (by decide +kernel)

end ProxyZ.Dns
