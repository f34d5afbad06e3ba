import ProxyZ.Dns.Bypass

/-!
# How old an answer from the cache is

The DNS server runs a goroutine for each query. They share the cache with each other, and with `Clear` and
`SetConfigIP`, which a change of the route and the router's setup call.

Whatever the order of their steps is, an answer from the cache is one that the local resolver has given for this name
within the last hour, or a tunnel within the last five minutes, or one of the two that `SetConfigIP` has set; and it has
been kept behind the last `Clear` (`answers_fresh`). A query whose steps no other comes between is served as `ServeDNS`
does it (`serveDNS_alone`).
-/

namespace ProxyZ.Dns

open Go Method

variable {ρ : Type}

def hour : Int := 60 * minute

/-! ### What is kept -/

/-- A reply that has been fetched: the tunnel it has come through, `none` for the local resolver, the name it is kept
for, and the time. -/
structure Fetched (ρ : Type) where
  eid : Option Str
  name : Str
  since : Int
  reply : Msg ρ

/-- An entry of the cache, by whom has made it. -/
inductive Entry (ρ : Type)
  | fetched (f : Fetched ρ)
  | config (name : Str) (since : Int)

namespace Entry

def name : Entry ρ → Str
  | .fetched f => f.name
  | .config name _ => name

def since : Entry ρ → Int
  | .fetched f => f.since
  | .config _ since => since

/-- For how long the entry is good. -/
def ttl : Entry ρ → Int
  | .fetched ⟨none, _, _, _⟩ => hour
  | .fetched ⟨some _, _, _, _⟩ => 5 * minute
  | .config _ _ => 9999 * hour

def record (e : Entry ρ) : DNSRecord :=
  match e with
  | .fetched ⟨none, _, _, reply⟩ => { ips := addresses reply.answer, timeout := e.since + e.ttl }
  | .fetched ⟨some _, name, _, reply⟩ => { host := name, ips := addresses reply.answer, timeout := e.since + e.ttl }
  | .config name _ => { host := name, ips := [str "99.254.254.254"], timeout := e.since + e.ttl }

@[simp] theorem timeout_record (e : Entry ρ) : e.record.timeout = e.since + e.ttl := by
  rcases e with ⟨_ | _, _, _, _⟩ | _ <;> rfl

end Entry

/-- A reply through a tunnel is kept if it has addresses. -/
def Fetched.kept (f : Fetched ρ) : Bool := f.eid.isNone || !(addresses f.reply.answer).isEmpty

namespace Package

/-- Time passes, at most forwards. -/
def passes (t : Int) (s : Package ρ) : Option (Package ρ) := if s.clock ≤ t then some { s with clock := t } else none

def write (m : Msg ρ) (s : Package ρ) : Package ρ :=
  { s with resolver := { s.resolver with written := s.resolver.written ++ [m], closed := true } }

def forget (name : Str) (s : Package ρ) : Package ρ :=
  { s with resolver := { s.resolver with domainsToAddresses := s.resolver.domainsToAddresses.erase name } }

def wait (n : Int) (s : Package ρ) : Package ρ :=
  { s with resolver := { s.resolver with queryWait := s.resolver.queryWait + n } }

def errRecord (errs : List (Str × Nat)) (s : Package ρ) : Package ρ :=
  { s with resolver := { s.resolver with errRecords := s.resolver.errRecords ++ errs } }

def keep (e : Entry ρ) (s : Package ρ) : Package ρ :=
  { s with resolver := { s.resolver with domainsToAddresses := s.resolver.domainsToAddresses.insert e.name e.record } }

/-- The region in which a reply is kept. -/
def store (f : Fetched ρ) (s : Package ρ) : Package ρ :=
  if f.kept then
    let ips := addresses f.reply.answer
    let s := s.keep (.fetched f)
    { s with
      resolver :=
        { s.resolver with
          ip2host := insertAll ips f.name s.resolver.ip2host
          local2host := if f.eid.isNone then insertAll ips f.name s.resolver.local2host else s.resolver.local2host } }
  else s

/-- The reply is written, and the tunnel is no longer blamed. -/
def finish (f : Fetched ρ) (s : Package ρ) : Package ρ :=
  { s with
    resolver :=
      { s.resolver with
        written := s.resolver.written ++ [f.reply]
        errVanished := s.resolver.errVanished ++ f.eid.toList
        queryWait := s.resolver.queryWait + -1
        closed := true } }

end Package

/-! ### The goroutines -/

/-- A query as it is handled: the question and the rest of the reply `SetReply` has made. -/
structure Query (ρ : Type) where
  q : Question
  header : ρ

def Query.msg (x : Query ρ) : Msg ρ := ⟨[x.q], [], x.header⟩

/-- The rewriting of `ResolveRemoteOld`. -/
def Query.rewrite (x : Query ρ) : Query ρ := { x with q := withoutLan x.q }

/-- What a goroutine does next. -/
inductive Stage (ρ : Type)
  | asked (r : Msg ρ)
  /-- `ResolveCache` -/
  | looking (x : Query ρ)
  /-- its record is too old -/
  | expired (x : Query ρ)
  | missed (x : Query ρ)
  /-- `IsLocal` -/
  | routing (x : Query ρ)
  /-- `ResolveLocal` -/
  | resolving (x : Query ρ)
  /-- `ResolveRemoteOld`, with the attempts that are left and the number of this one -/
  | trying (left i : Nat) (x : Query ρ)
  | found (f : Fetched ρ)
  | stored (f : Fetched ρ)
  /-- answered with what has been fetched -/
  | fetched (f : Fetched ρ)
  /-- answered from the cache, with the record `r` at the time `t` -/
  | cached (m : Msg ρ) (name : Str) (r : DNSRecord) (t : Int)
  /-- answered without an address -/
  | unanswered (m : Msg ρ)
  /-- `SetConfigIP`, with the names that are left -/
  | configuring (left : List Str) (done : List (Entry ρ))
  /-- `Clear`, before and behind the collection of the names -/
  | clear (file : Option (List Str))
  | clearing (names : List Str) (file : Option (List Str))
  | loading (file : Option (List Str))
  | loaded

/-- What the local resolver replies, `none` if it has no answer. -/
def localReply (w : World ρ) (msg : Msg ρ) : Option (Msg ρ) :=
  match replyDNS w.codec w.lookupIP (packDNS w.codec msg) with
  | some (r, none) =>
      match unpackDNS w.codec r with
      | some (.ok replymsg) => if replymsg.answer = [] then none else some replymsg
      | _ => none
  | _ => none

/-- What a tunnel replies in the attempt `i`, or what it is blamed for. -/
def tunnelReply (w : World ρ) (i : Nat) (msg : Msg ρ) : Except (List (Str × Nat)) (Str × Msg ρ) :=
  match w.connectRemote i with
  | .error eid => .error [(eid, 2)]
  | .ok eid =>
      match w.read i (queryFrame w.codec (rewriteLan msg)) with
      | .error _ => .error [(eid, 1)]
      | .ok replyB =>
          match unpackDNS w.codec replyB with
          | some (.ok replymsg) => .ok (eid, replymsg)
          | _ => .error []

/-- The next step of a goroutine, `none` where it has ended or the time of the step is over. -/
def queryStep (re : Regexp) (s : Package ρ) (t : Stage ρ) (w : World ρ) :
    Option (Package ρ × Stage ρ × List (Stage ρ)) :=
  match t with
  | .asked r =>
      match r.question with
      | [] => some (s.write (replyTo w r), .unanswered (replyTo w r), [])
      | q :: _ =>
          if q.qtype = typeA then some (s, .looking ⟨q, w.authoritative (w.setReply r.rest)⟩, [])
          else some (s.write (replyTo w r), .unanswered (replyTo w r), [])
  | .looking x => do
      let s ← s.passes (w.now 0)
      match s.resolver.domainsToAddresses.lookup x.q.name with
      | none => some (s, .missed x, [])
      | some addressR =>
          if w.now 0 < addressR.timeout then
            let m := { x.msg with answer := cachedAnswer w x.q.name addressR.ips }
            some (s.write m, .cached m x.q.name addressR (w.now 0), [])
          else some (s, .expired x, [])
  | .expired x => some (s.forget x.q.name, .missed x, [])
  | .missed x => some (s.wait 1, if w.isRouter then .routing x else .trying 0 0 x, [])
  | .routing x => some (s, if isLocal re s.rules x.q.name then .resolving x else .trying 3 0 x, [])
  | .resolving x => do
      let s ← s.passes (w.now 0)
      match localReply w x.msg with
      | some reply => some (s, .found ⟨none, x.q.name, w.now 0, reply⟩, [])
      | none => some (s, .trying 3 0 x, [])
  | .trying 0 _ x => some (s.write x.msg, .unanswered x.msg, [])
  | .trying (left + 1) i x => do
      let s ← s.passes (w.now (i + 1))
      match tunnelReply w i x.msg with
      | .ok (eid, reply) => some (s, .found ⟨some eid, x.q.name, w.now (i + 1), reply⟩, [])
      | .error errs => some (s.errRecord errs, .trying left (i + 1) x.rewrite, [])
  | .found f => some (s.store f, .stored f, [])
  | .stored f => some (s.finish f, .fetched f, [])
  | .configuring (name :: left) done => do
      let s ← s.passes (w.now 0)
      let e : Entry ρ := .config name (w.now 0)
      some (s.keep e, .configuring left (e :: done), [])
  | .clear file => some (s, .clearing s.resolver.domainsToAddresses.keys file, [])
  | .clearing (name :: names) file => some (s.forget name, .clearing names file, [])
  | .clearing [] file =>
      some ({ s with resolver := { s.resolver with domainsToAddresses := ∅ } }, .loading file, [])
  | .loading file => some (s.loadLocalRule file, .loaded, [])
  | _ => none

/-- What is called. -/
inductive DnsCall (ρ : Type)
  | serveDNS (r : Msg ρ)
  | setConfigIP
  | clear (file : Option (List Str))
  | loadLocalRule (file : Option (List Str))

/-- The goroutines that use the cache. -/
def queries (ρ : Type) (re : Regexp) : Program (Package ρ) (Stage ρ) (DnsCall ρ) (World ρ) where
  start
    | .serveDNS r => .asked r
    | .setConfigIP => .configuring [str "config.me.", str "local.me."] []
    | .clear file => .clear file
    | .loadLocalRule file => .loading file
  next := queryStep re

/-- The entry that a goroutine has made. -/
def Stage.Holds (e : Entry ρ) : Stage ρ → Prop
  | .found f | .stored f | .fetched f => e = .fetched f
  | .configuring _ done => e ∈ done
  | _ => False

/-- The entry that a goroutine has kept in the cache. -/
def Stage.Kept (e : Entry ρ) : Stage ρ → Prop
  | .stored f | .fetched f => f.kept = true ∧ e = .fetched f
  | .configuring _ done => e ∈ done
  | _ => False

/-- The entry is what was replied at its time to a query for its name, or one of those `SetConfigIP` makes. -/
def Entry.Given : Entry ρ → Prop
  | .fetched ⟨none, name, since, reply⟩ =>
      ∃ (w : World ρ) (x : Query ρ), x.q.name = name ∧ w.now 0 = since ∧ localReply w x.msg = some reply
  | .fetched ⟨some eid, name, since, reply⟩ =>
      ∃ (w : World ρ) (x : Query ρ) (i : Nat),
        x.q.name = name ∧ w.now (i + 1) = since ∧ tunnelReply w i x.msg = .ok (eid, reply)
  | .config name _ => name = str "config.me." ∨ name = str "local.me."

/-! ### What a step does -/

/-- A goroutine that holds no entry and has not answered from the cache. -/
def Stage.Quiet : Stage ρ → Prop
  | .found _ | .stored _ | .fetched _ | .cached _ _ _ _ | .configuring _ _ => False
  | _ => True

/-- The answer from a record. -/
def FromRecord (m : Msg ρ) (name : Str) (r : DNSRecord) : Prop :=
  ∃ (w : World ρ) (x : Query ρ), x.q.name = name ∧ m = { x.msg with answer := cachedAnswer w name r.ips }

/-- What the goroutines do to the cache, and what they go on with. -/
inductive QueryTo (s : Package ρ) : Stage ρ → Package ρ → Stage ρ → Prop
  | quiet (t t' : Stage ρ) (s' : Package ρ) : t.Quiet → t'.Quiet → s.clock ≤ s'.clock →
      (∀ k r, s'.resolver.domainsToAddresses.lookup k = some r → s.resolver.domainsToAddresses.lookup k = some r) →
      QueryTo s t s' t'
  | answered (x : Query ρ) (m : Msg ρ) (r : DNSRecord) (s' : Package ρ) : FromRecord m x.q.name r →
      s.resolver.domainsToAddresses.lookup x.q.name = some r → s'.clock < r.timeout → s.clock ≤ s'.clock →
      s'.resolver.domainsToAddresses = s.resolver.domainsToAddresses →
      QueryTo s (.looking x) s' (.cached m x.q.name r s'.clock)
  | fetched (t : Stage ρ) (f : Fetched ρ) (s' : Package ρ) : t.Quiet → (Entry.fetched f).Given →
      f.since = s'.clock → s.clock ≤ s'.clock →
      s'.resolver.domainsToAddresses = s.resolver.domainsToAddresses → QueryTo s t s' (.found f)
  | stored (f : Fetched ρ) : QueryTo s (.found f) (s.store f) (.stored f)
  | finished (f : Fetched ρ) : QueryTo s (.stored f) (s.finish f) (.fetched f)
  | configured (name : Str) (left : List Str) (done : List (Entry ρ)) (t : Int) : s.clock ≤ t →
      QueryTo s (.configuring (name :: left) done) (({ s with clock := t } : Package ρ).keep (.config name t))
        (.configuring left (.config name t :: done))

section Steps

variable {re : Regexp} {s s' : Package ρ} {t t' : Stage ρ} {w : World ρ} {new : List (Stage ρ)} {e : Entry ρ}

theorem passes_eq_some {n : Int} (h : s.passes n = some s') : s.clock ≤ n ∧ s' = { s with clock := n } := by
  unfold Package.passes at h
  split_ifs at h with hle
  exact ⟨hle, (Option.some.inj h).symm⟩

theorem lookup_of_forget {name k : Str} {r : DNSRecord}
    (h : (s.forget name).resolver.domainsToAddresses.lookup k = some r) :
    s.resolver.domainsToAddresses.lookup k = some r := by
  by_cases hk : k = name
  · subst hk
    have hnone : (s.forget k).resolver.domainsToAddresses.lookup k = none := AList.lookup_erase _ _
    cases hnone.symm.trans h
  · exact (AList.lookup_erase_ne hk).symm.trans h

theorem queryStep_cases (h : queryStep re s t w = some (s', t', new)) : QueryTo s t s' t' ∧ new = [] := by
  unfold queryStep at h
  cases t with
  | asked r =>
    dsimp only at h
    split at h
    · cases h
      exact ⟨.quiet _ _ _ trivial trivial le_rfl fun _ _ hr => hr, rfl⟩
    · split_ifs at h
      all_goals
        cases h
        exact ⟨.quiet _ _ _ trivial trivial le_rfl fun _ _ hr => hr, rfl⟩
  | looking x =>
    obtain ⟨s₁, hpasses, h⟩ := Option.bind_eq_some_iff.mp h
    obtain ⟨hle, rfl⟩ := passes_eq_some hpasses
    dsimp only at h
    split at h
    · cases h
      exact ⟨.quiet _ _ _ trivial trivial hle fun _ _ hr => hr, rfl⟩
    · rename_i addressR hlookup
      split_ifs at h with hnow
      · cases h
        exact ⟨.answered x _ addressR _ ⟨w, x, rfl, rfl⟩ hlookup hnow hle rfl, rfl⟩
      · cases h
        exact ⟨.quiet _ _ _ trivial trivial hle fun _ _ hr => hr, rfl⟩
  | expired x =>
    cases h
    exact ⟨.quiet _ _ _ trivial trivial le_rfl fun _ _ hr => lookup_of_forget hr, rfl⟩
  | missed x =>
    cases h
    refine ⟨.quiet _ _ _ trivial ?_ le_rfl fun _ _ hr => hr, rfl⟩
    split_ifs <;> trivial
  | routing x =>
    cases h
    refine ⟨.quiet _ _ _ trivial ?_ le_rfl fun _ _ hr => hr, rfl⟩
    split_ifs <;> trivial
  | resolving x =>
    obtain ⟨s₁, hpasses, h⟩ := Option.bind_eq_some_iff.mp h
    obtain ⟨hle, rfl⟩ := passes_eq_some hpasses
    split at h
    · rename_i reply hreply
      cases h
      exact ⟨.fetched _ _ _ trivial ⟨w, x, rfl, rfl, hreply⟩ rfl hle rfl, rfl⟩
    · cases h
      exact ⟨.quiet _ _ _ trivial trivial hle fun _ _ hr => hr, rfl⟩
  | trying left i x =>
    cases left with
    | zero =>
      cases h
      exact ⟨.quiet _ _ _ trivial trivial le_rfl fun _ _ hr => hr, rfl⟩
    | succ left =>
      obtain ⟨s₁, hpasses, h⟩ := Option.bind_eq_some_iff.mp h
      obtain ⟨hle, rfl⟩ := passes_eq_some hpasses
      split at h
      · rename_i eid reply hreply
        cases h
        exact ⟨.fetched _ _ _ trivial ⟨w, x, i, rfl, rfl, hreply⟩ rfl hle rfl, rfl⟩
      · cases h
        exact ⟨.quiet _ _ _ trivial trivial hle fun _ _ hr => hr, rfl⟩
  | found f =>
    cases h
    exact ⟨.stored f, rfl⟩
  | stored f =>
    cases h
    exact ⟨.finished f, rfl⟩
  | configuring left done =>
    cases left with
    | nil => cases h
    | cons name left =>
      obtain ⟨s₁, hpasses, h⟩ := Option.bind_eq_some_iff.mp h
      obtain ⟨hle, rfl⟩ := passes_eq_some hpasses
      cases h
      exact ⟨.configured name left done _ hle, rfl⟩
  | clear file =>
    cases h
    exact ⟨.quiet _ _ _ trivial trivial le_rfl fun _ _ hr => hr, rfl⟩
  | clearing names file =>
    cases names with
    | nil =>
      cases h
      exact ⟨.quiet _ _ _ trivial trivial le_rfl fun _ _ hr => (nomatch hr), rfl⟩
    | cons name names =>
      cases h
      exact ⟨.quiet _ _ _ trivial trivial le_rfl fun _ _ hr => lookup_of_forget hr, rfl⟩
  | loading file =>
    cases h
    exact ⟨.quiet _ _ _ trivial trivial le_rfl fun _ _ hr => hr, rfl⟩
  | fetched f => cases h
  | cached m name r t => cases h
  | unanswered m => cases h
  | loaded => cases h

theorem Stage.Quiet.not_holds (h : t.Quiet) : ¬t.Holds e := by
  cases t <;> first | exact h.elim | exact id

theorem Stage.Kept.holds (h : t.Kept e) : t.Holds e := by
  cases t with
  | stored f => exact h.2
  | fetched f => exact h.2
  | configuring left done => exact h
  | _ => exact h.elim

/-- What a goroutine has kept it has kept. -/
theorem QueryTo.kept (h : QueryTo s t s' t') (hkept : t.Kept e) : t'.Kept e := by
  cases h with
  | quiet _ _ _ ht _ _ _ => exact absurd hkept.holds ht.not_holds
  | answered => exact hkept.elim
  | fetched _ f _ ht _ _ _ _ => exact absurd hkept.holds ht.not_holds
  | stored f => exact hkept.elim
  | finished f => exact hkept
  | configured name left done t _ => exact List.mem_cons_of_mem _ hkept

theorem QueryTo.clock (h : QueryTo s t s' t') : s.clock ≤ s'.clock := by
  cases h with
  | quiet _ _ _ _ _ hle _ => exact hle
  | answered _ _ _ _ _ _ _ hle _ => exact hle
  | fetched _ _ _ _ _ _ hle _ => exact hle
  | stored f =>
    unfold Package.store
    split_ifs <;> exact le_rfl
  | finished f => exact le_rfl
  | configured _ _ _ _ hle => exact hle

end Steps

/-! ### Runs -/

/-- The entries a goroutine holds have been given, not later than now; and `SetConfigIP` sets each name once. -/
structure Stage.Timed (clock : Int) (t : Stage ρ) : Prop where
  given : ∀ e, t.Holds e → e.since ≤ clock ∧ e.Given
  config : ∀ left done, t = .configuring left done →
    left.Nodup ∧ (∀ name ∈ left, name = str "config.me." ∨ name = str "local.me.") ∧ ∀ e ∈ done, e.name ∉ left

/-- What a goroutine has kept in the first state it has kept in the second. -/
def Keeps (s s' : Threads (Package ρ) (Stage ρ)) : Prop :=
  ∀ (j : Nat) (u : Stage ρ), s.threads[j]? = some u → ∃ u', s'.threads[j]? = some u' ∧ ∀ e, u.Kept e → u'.Kept e

/-- The entry has been kept since the state `s₁`. -/
def KeptSince (s₁ s : Threads (Package ρ) (Stage ρ)) (e : Entry ρ) : Prop :=
  ∃ (j : Nat) (u : Stage ρ), s.threads[j]? = some u ∧ u.Kept e ∧
    ∀ u₁ : Stage ρ, s₁.threads[j]? = some u₁ → ¬u₁.Kept e

/-- An answer from the record `r` at the time `t` is fresh: the record has been kept since the state `s₁`, is for this
name, and is not too old. -/
def Fresh (s₁ s : Threads (Package ρ) (Stage ρ)) (m : Msg ρ) (name : Str) (r : DNSRecord) (t : Int) : Prop :=
  FromRecord m name r ∧
    ∃ e : Entry ρ, KeptSince s₁ s e ∧ e.Given ∧ e.name = name ∧ e.record = r ∧ e.since ≤ t ∧ t < e.since + e.ttl

/-- What holds since the state `s₁`: the cache has what has been kept, and the answers from it are fresh. -/
structure Provided (s₁ s : Threads (Package ρ) (Stage ρ)) : Prop where
  later : Keeps s₁ s
  cache : ∀ name r, s.shared.resolver.domainsToAddresses.lookup name = some r →
    ∃ e, KeptSince s₁ s e ∧ e.name = name ∧ e.record = r
  answers : ∀ (k : Nat) m name r t, s.threads[k]? = some (.cached m name r t) →
    s₁.threads[k]? = some (.cached m name r t) ∨ Fresh s₁ s m name r t

section Runs

variable {re : Regexp} {s₁ s s' : Threads (Package ρ) (Stage ρ)} {c : Package ρ} {t t' : Stage ρ} {e : Entry ρ} {i : Nat}

theorem Stage.Timed.mono {clock clock' : Int} (h : t.Timed clock) (hle : clock ≤ clock') : t.Timed clock' where
  given := fun e he => ⟨(h.given e he).1.trans hle, (h.given e he).2⟩
  config := h.config

theorem Stage.Quiet.timed {clock : Int} (h : t.Quiet) : t.Timed clock where
  given := fun _ he => absurd he h.not_holds
  config := by
    rintro left done rfl
    exact h.elim

theorem QueryTo.timed {s s' : Package ρ} (h : QueryTo s t s' t') (ht : t.Timed s.clock) : t'.Timed s'.clock := by
  cases h with
  | quiet _ _ _ _ hquiet _ _ => exact hquiet.timed
  | answered => exact ⟨fun _ he => he.elim, nofun⟩
  | fetched _ f _ _ hgiven hsince _ _ =>
    refine ⟨?_, nofun⟩
    rintro e rfl
    exact ⟨hsince.le, hgiven⟩
  | stored f =>
    refine ⟨fun e he => ?_, nofun⟩
    obtain ⟨hsince, hgiven⟩ := ht.given e he
    exact ⟨hsince.trans (QueryTo.stored f).clock, hgiven⟩
  | finished f => exact ⟨ht.given, nofun⟩
  | configured name left done t hle =>
    obtain ⟨hnodup, hnames, hdone⟩ := ht.config _ _ rfl
    constructor
    · intro e he
      rcases List.mem_cons.mp he with rfl | he
      · exact ⟨le_rfl, hnames name List.mem_cons_self⟩
      · exact ⟨(ht.given e he).1.trans hle, (ht.given e he).2⟩
    · intro left' done' heq
      cases heq
      refine ⟨hnodup.of_cons, fun n hn => hnames n (List.mem_cons_of_mem _ hn), fun e he => ?_⟩
      rcases List.mem_cons.mp he with rfl | he
      · exact (List.nodup_cons.mp hnodup).1
      · exact fun hmem => hdone e he (List.mem_cons_of_mem _ hmem)

/-- A call of one of the functions starts without an entry. -/
theorem timed_start (call : DnsCall ρ) (clock : Int) : ((queries ρ re).start call).Timed clock := by
  cases call with
  | setConfigIP =>
    refine ⟨fun e he => (List.not_mem_nil he).elim, fun left done heq => ?_⟩
    cases heq
    exact ⟨by decide, by simp, by simp⟩
  | serveDNS r => exact Stage.Quiet.timed trivial
  | clear file => exact Stage.Quiet.timed trivial
  | loadLocalRule file => exact Stage.Quiet.timed trivial

/-- The step of a goroutine, with the states before and behind it. -/
structure Steps (s s' : Threads (Package ρ) (Stage ρ)) (i : Nat) (t t' : Stage ρ) : Prop where
  before : s.threads[i]? = some t
  step : QueryTo s.shared t s'.shared t'
  behind : s'.threads = s.threads.set i t'

theorem step?_cases {a : Act (DnsCall ρ) (World ρ)} (h : (queries ρ re).step? s a = some s') :
    (∃ call, s' = ⟨s.shared, s.threads ++ [(queries ρ re).start call]⟩) ∨ ∃ i t t', Steps s s' i t t' := by
  cases a with
  | call call => exact Or.inl ⟨call, Program.step?_call.mp h⟩
  | step i w =>
    obtain ⟨t, shared, t', new, ht, hnext, rfl⟩ := Program.step?_step.mp h
    obtain ⟨hto, rfl⟩ := queryStep_cases hnext
    exact Or.inr ⟨i, t, t', ht, hto, List.append_nil _⟩

theorem timed_step {a : Act (DnsCall ρ) (World ρ)} (h : ∀ t ∈ s.threads, t.Timed s.shared.clock)
    (hs : (queries ρ re).step? s a = some s') : ∀ t ∈ s'.threads, t.Timed s'.shared.clock := by
  rcases step?_cases hs with ⟨call, rfl⟩ | ⟨i, t, t', hsteps⟩
  · exact each_append h (by simpa using timed_start call _)
  · rw [hsteps.behind]
    exact each_set (fun u hu => (h u hu).mono hsteps.step.clock)
      (hsteps.step.timed (h t (List.mem_of_getElem? hsteps.before)))

/-- The goroutines of a run are timed. -/
theorem timed_run {acts : List (Act (DnsCall ρ) (World ρ))} (h : ∀ t ∈ s.threads, t.Timed s.shared.clock)
    (hrun : runAll (queries ρ re).step? acts s = some s') : ∀ t ∈ s'.threads, t.Timed s'.shared.clock :=
  runAll_invariant (I := fun s => ∀ t ∈ s.threads, t.Timed s.shared.clock) (fun _ _ _ h hs => timed_step h hs) h hrun

/-- The goroutine `j` behind the step of the goroutine `i`. -/
theorem Steps.getElem? (h : Steps s s' i t t') (j : Nat) :
    s'.threads[j]? = if i = j then some t' else s.threads[j]? := by
  have hlt := (List.getElem?_eq_some_iff.mp h.before).1
  rw [h.behind, List.getElem?_set]
  split_ifs with hj
  · rfl
  · rfl

theorem Steps.keeps (h : Steps s s' i t t') : Keeps s s' := by
  intro j u hu
  rw [h.getElem?]
  split_ifs with hj
  · subst hj
    cases h.before.symm.trans hu
    exact ⟨t', rfl, fun e => h.step.kept⟩
  · exact ⟨u, hu, fun e he => he⟩

theorem Keeps.call (s : Threads (Package ρ) (Stage ρ)) (u : Stage ρ) : Keeps s ⟨s.shared, s.threads ++ [u]⟩ := by
  intro j u' hu'
  have hlt := (List.getElem?_eq_some_iff.mp hu').1
  exact ⟨u', by rw [List.getElem?_append_left hlt, hu'], fun e he => he⟩

theorem Keeps.trans (h : Keeps s₁ s) (h' : Keeps s s') : Keeps s₁ s' := by
  intro j u hu
  obtain ⟨u', hu', hkept⟩ := h j u hu
  obtain ⟨u'', hu'', hkept'⟩ := h' j u' hu'
  exact ⟨u'', hu'', fun e he => hkept' e (hkept e he)⟩

theorem KeptSince.mono (h : KeptSince s₁ s e) (hkeeps : Keeps s s') : KeptSince s₁ s' e := by
  obtain ⟨j, u, hu, he, hnew⟩ := h
  obtain ⟨u', hu', hmono⟩ := hkeeps j u hu
  exact ⟨j, u', hu', hmono e he, hnew⟩

theorem KeptSince.timed (h : KeptSince s₁ s e) (htimed : ∀ t ∈ s.threads, t.Timed s.shared.clock) :
    e.since ≤ s.shared.clock ∧ e.Given := by
  obtain ⟨j, u, hu, he, -⟩ := h
  exact (htimed u (List.mem_of_getElem? hu)).given e he.holds

theorem Fresh.mono {m : Msg ρ} {name : Str} {r : DNSRecord} {n : Int} (h : Fresh s₁ s m name r n)
    (hkeeps : Keeps s s') : Fresh s₁ s' m name r n := by
  obtain ⟨hm, e, he, hrest⟩ := h
  exact ⟨hm, e, he.mono hkeeps, hrest⟩

/-- What the goroutine `i` has kept in this step has been kept since `s₁`. -/
theorem Steps.keptSince (h : Steps s s' i t t') (hlater : Keeps s₁ s) (ht : ¬t.Kept e) (ht' : t'.Kept e) :
    KeptSince s₁ s' e := by
  refine ⟨i, t', by rw [h.getElem?, if_pos rfl], ht', fun u₁ hu₁ he => ?_⟩
  obtain ⟨u, hu, hkept⟩ := hlater i u₁ hu₁
  cases h.before.symm.trans hu
  exact ht (hkept e he)

/-- What is in the cache behind a step was there before, or has been kept in the step. -/
theorem QueryTo.lookup {s s' : Package ρ} (h : QueryTo s t s' t') (ht : t.Timed s.clock) {name : Str} {r : DNSRecord}
    (hr : s'.resolver.domainsToAddresses.lookup name = some r) :
    s.resolver.domainsToAddresses.lookup name = some r ∨
      ∃ e : Entry ρ, ¬t.Kept e ∧ t'.Kept e ∧ e.name = name ∧ e.record = r := by
  -- an entry is kept for its name only
  have hinsert : ∀ (e : Entry ρ) (d : Dict DNSRecord), (d.insert e.name e.record).lookup name = some r →
      d.lookup name = some r ∨ e.name = name ∧ e.record = r := by
    intro e d hd
    by_cases hname : name = e.name
    · subst hname
      exact Or.inr ⟨rfl, Option.some.inj ((AList.lookup_insert d).symm.trans hd)⟩
    · exact Or.inl ((AList.lookup_insert_ne hname).symm.trans hd)
  cases h with
  | quiet _ _ _ _ _ _ hcache => exact Or.inl (hcache name r hr)
  | answered _ _ _ _ _ _ _ _ hcache => exact Or.inl (hcache ▸ hr)
  | fetched _ _ _ _ _ _ _ hcache => exact Or.inl (hcache ▸ hr)
  | finished f => exact Or.inl hr
  | stored f =>
    by_cases hkept : f.kept = true
    · unfold Package.store at hr
      rw [if_pos hkept] at hr
      refine (hinsert (.fetched f) s.resolver.domainsToAddresses hr).imp id fun ⟨hname, hrecord⟩ => ?_
      exact ⟨.fetched f, id, ⟨hkept, rfl⟩, hname, hrecord⟩
    · unfold Package.store at hr
      rw [if_neg hkept] at hr
      exact Or.inl hr
  | configured n left done clock hle =>
    refine (hinsert (.config n clock) s.resolver.domainsToAddresses hr).imp id fun ⟨hname, hrecord⟩ => ?_
    have hfresh : ¬(Stage.configuring (n :: left) done : Stage ρ).Kept (.config n clock) :=
      fun hmem => (ht.config _ _ rfl).2.2 _ hmem List.mem_cons_self
    exact ⟨.config n clock, hfresh, List.mem_cons_self, hname, hrecord⟩

theorem Provided.step (h : Provided s₁ s) (htimed : ∀ t ∈ s.threads, t.Timed s.shared.clock)
    (hsteps : Steps s s' i t t') : Provided s₁ s' := by
  have ht := htimed t (List.mem_of_getElem? hsteps.before)
  have hkeeps := hsteps.keeps
  have hcache : ∀ name r, s.shared.resolver.domainsToAddresses.lookup name = some r →
      ∃ e, KeptSince s₁ s' e ∧ e.name = name ∧ e.record = r := by
    intro name r hr
    obtain ⟨e, he, hrest⟩ := h.cache name r hr
    exact ⟨e, he.mono hkeeps, hrest⟩
  refine ⟨h.later.trans hkeeps, fun name r hr => ?_, fun k m name r n hk => ?_⟩
  · rcases hsteps.step.lookup ht hr with hold | ⟨e, hold, hnew, hrest⟩
    · exact hcache name r hold
    · exact ⟨e, hsteps.keptSince h.later hold hnew, hrest⟩
  · rw [hsteps.getElem?] at hk
    split_ifs at hk with hik
    · -- the goroutine has just been answered
      cases hk
      have hstep := hsteps.step
      generalize hshared : s'.shared = c at hstep
      cases hstep with
      | answered x _ _ _ hm hlookup hnow hle _ =>
        obtain ⟨e, he, hname, hrecord⟩ := h.cache x.q.name r hlookup
        obtain ⟨hsince, hgiven⟩ := he.timed htimed
        refine Or.inr ⟨hm, e, he.mono hkeeps, hgiven, hname, hrecord, hsince.trans hle, ?_⟩
        rw [← hrecord, Entry.timeout_record] at hnow
        exact hnow
      | quiet _ _ _ _ hquiet _ _ => exact hquiet.elim
    · exact (h.answers k m name r n hk).imp id fun hfresh => hfresh.mono hkeeps

theorem Provided.call (h : Provided s₁ s) (call : DnsCall ρ) :
    Provided s₁ ⟨s.shared, s.threads ++ [(queries ρ re).start call]⟩ := by
  have hkeeps := Keeps.call s ((queries ρ re).start call)
  refine ⟨h.later.trans hkeeps, fun name r hr => ?_, fun k m name r n hk => ?_⟩
  · obtain ⟨e, he, hrest⟩ := h.cache name r hr
    exact ⟨e, he.mono hkeeps, hrest⟩
  · rw [List.getElem?_append] at hk
    split_ifs at hk
    · exact (h.answers k m name r n hk).imp id fun hfresh => hfresh.mono hkeeps
    · have hstart := List.mem_singleton.mp (List.mem_of_getElem? hk)
      cases call <;> cases hstart

/-- What has been provided since a state whose cache is empty. -/
theorem Provided.run {acts : List (Act (DnsCall ρ) (World ρ))} (htimed : ∀ t ∈ s₁.threads, t.Timed s₁.shared.clock)
    (hempty : s₁.shared.resolver.domainsToAddresses = ∅) (hrun : runAll (queries ρ re).step? acts s₁ = some s) :
    Provided s₁ s := by
  have hstart : Provided s₁ s₁ := by
    refine ⟨fun j u hu => ⟨u, hu, fun e he => he⟩, fun name r hr => ?_, fun k m name r n hk => Or.inl hk⟩
    rw [hempty] at hr
    cases hr
  refine (runAll_invariant (I := fun s => Provided s₁ s ∧ ∀ t ∈ s.threads, t.Timed s.shared.clock) ?_
    ⟨hstart, htimed⟩ hrun).1
  rintro s a s' ⟨h, htimed⟩ hs
  refine ⟨?_, timed_step htimed hs⟩
  rcases step?_cases hs with ⟨call, rfl⟩ | ⟨i, t, t', hsteps⟩
  · exact h.call call
  · exact h.step htimed hsteps

/-- **An answer from the cache is fresh**, in every order of the steps of the queries, of `Clear` and of `SetConfigIP`:
it has the addresses of a record that has been kept since the cache was last empty, and that the local resolver has
given for this name within the last hour, or a tunnel within the last five minutes, or `SetConfigIP` has set. -/
theorem answers_fresh (re : Regexp) {before acts : List (Act (DnsCall ρ) (World ρ))}
    (hbefore : runAll (queries ρ re).step? before ⟨{}, []⟩ = some s₁)
    (hempty : s₁.shared.resolver.domainsToAddresses = ∅) (hrun : runAll (queries ρ re).step? acts s₁ = some s)
    {k : Nat} {m : Msg ρ} {name : Str} {r : DNSRecord} {n : Int} (hk : s.threads[k]? = some (.cached m name r n))
    (hnew : s₁.threads[k]? ≠ some (.cached m name r n)) : Fresh s₁ s m name r n := by
  have htimed := timed_run (by simp) hbefore
  exact ((Provided.run htimed hempty hrun).answers k m name r n hk).resolve_left hnew

end Runs

/-- A query for `a.lan.` whose second attempt is answered, which keeps the address for `a.`, and a query for `a.` four
minutes later. -/
def twoQueries : List (Act (DnsCall (Nat × Nat)) (World (Nat × Nat))) :=
  let w := lanWorld true
  [.call (.serveDNS lanQuery)] ++ List.replicate 8 (.step 0 w) ++
    [.call (.serveDNS ⟨[⟨str "a.", 1, 1⟩], [], (0x1234, 0x100)⟩), .step 1 w,
      .step 1 { w with now := fun _ => 4 * minute }]

theorem answers_fresh_two : ∃ s m r n, runAll (queries (Nat × Nat) hostRegexp).step? twoQueries ⟨{}, []⟩ = some s ∧
    s.threads[1]? = some (.cached m (str "a.") r n) ∧ Fresh ⟨{}, []⟩ s m (str "a.") r n := by
  have hstart : runAll (queries (Nat × Nat) hostRegexp).step? [] ⟨{}, []⟩ = some ⟨{}, []⟩ := rfl
  have hends : ∃ s m r n, runAll (queries (Nat × Nat) hostRegexp).step? twoQueries ⟨{}, []⟩ = some s ∧
      s.threads[1]? = some (.cached m (str "a.") r n) := ⟨_, _, _, _, rfl, rfl⟩
  obtain ⟨s, m, r, n, hrun, hk⟩ := hends
  exact ⟨s, m, r, n, hrun, hk, answers_fresh hostRegexp hstart rfl hrun hk (by simp)⟩

/-! ### A query alone -/

/-- The goroutine has nothing more to do. -/
def Stage.Over : Stage ρ → Prop
  | .fetched _ | .cached _ _ _ _ | .unanswered _ => True
  | _ => False

/-- `ServeDNS` up to the end, from a point on. -/
def closing (m : Method (Resolver ρ) PUnit) : Method (Resolver ρ) PUnit := do
  m
  modifyThe (Resolver ρ) fun s => { s with closed := true }

/-- The attempts, and what is behind them. -/
def lastly (w : World ρ) (left i : Nat) (msg : Msg ρ) : Method (Resolver ρ) PUnit := do
  let (answered, msg) ← attempts w left i msg
  if answered then addQueryWait (-1) else writeMsg msg

/-- The goroutine, with no step of others between its own, does what the method does. -/
def Serves (re : Regexp) (w : World ρ) (s : Package ρ) (t : Stage ρ) (m : Method (Resolver ρ) PUnit) : Prop :=
  ∃ n s' t', runAll (queries ρ re).step? (List.replicate n (.step 0 w)) ⟨s, [t]⟩ = some ⟨s', [t']⟩ ∧ t'.Over ∧
    closing m s.resolver = .ok (⟨⟩, s'.resolver)

section Alone

variable {re : Regexp} {w : World ρ} {s s' : Package ρ} {t t' : Stage ρ} {m m' : Method (Resolver ρ) PUnit}

theorem Serves.over (hstep : queryStep re s t' w = some (s', t, [])) (ht : t.Over)
    (hm : closing m s.resolver = .ok (⟨⟩, s'.resolver)) : Serves re w s t' m := by
  refine ⟨1, s', t, ?_, ht, hm⟩
  show (queries ρ re).step? ⟨s, [t']⟩ (.step 0 w) >>= _ = _
  rw [Program.step?_step.mpr ⟨t', s', t, [], rfl, hstep, rfl⟩]
  rfl

theorem Serves.step (h : Serves re w s' t' m') (hstep : queryStep re s t w = some (s', t', []))
    (hm : closing m s.resolver = closing m' s'.resolver) : Serves re w s t m := by
  obtain ⟨n, s'', t'', hrun, hover, hm'⟩ := h
  refine ⟨n + 1, s'', t'', ?_, hover, hm.trans hm'⟩
  rw [List.replicate_succ, runAll, Program.step?_step.mpr ⟨t, s', t', [], rfl, hstep, rfl⟩]
  exact hrun

theorem Query.firstQuestion (x : Query ρ) (c : Resolver ρ) : Dns.firstQuestion x.msg c = .ok (x.q, c) := by
  have hquestion : x.msg.question = [x.q] := rfl
  exact firstQuestion_eq hquestion c

theorem resolveLocal_eq (w : World ρ) (x : Query ρ) (c : Resolver ρ) :
    resolveLocal w x.msg c = match localReply w x.msg with
      | none => .ok (false, c)
      | some reply =>
          let ips := addresses reply.answer
          .ok (true, { c with
            domainsToAddresses := c.domainsToAddresses.insert x.q.name { ips, timeout := w.now 0 + hour }
            ip2host := insertAll ips x.q.name c.ip2host
            local2host := insertAll ips x.q.name c.local2host
            written := c.written ++ [reply] }) := by
  unfold resolveLocal localReply
  rw [bind_apply_ok _ (x.firstQuestion c)]
  obtain ⟨⟨r, err⟩, hreply⟩ := replyDNS_isSome w.codec w.lookupIP (packDNS w.codec x.msg)
  obtain ⟨res, hres⟩ := unpackDNS_isSome w.codec r
  rw [hreply]
  rcases err with _ | err
  · dsimp only
    rw [hres]
    rcases res with err | reply
    · rfl
    · dsimp only
      split_ifs <;> rfl
  · rfl

theorem resolveRemoteOld_eq (w : World ρ) (i : Nat) (x : Query ρ) (c : Resolver ρ) :
    resolveRemoteOld w i x.msg c = match tunnelReply w i x.msg with
      | .error errs => .ok (false, { c with errRecords := c.errRecords ++ errs })
      | .ok (eid, reply) =>
          let ips := addresses reply.answer
          let kept := if ips = [] then c else
            { c with
              domainsToAddresses :=
                c.domainsToAddresses.insert x.q.name { host := x.q.name, ips, timeout := w.now (i + 1) + 5 * minute }
              ip2host := insertAll ips x.q.name c.ip2host }
          .ok (true, { kept with written := kept.written ++ [reply], errVanished := kept.errVanished ++ [eid] }) := by
  unfold resolveRemoteOld tunnelReply
  rw [bind_apply_ok _ (x.firstQuestion c)]
  rcases w.connectRemote i with eid | eid
  · rfl
  · dsimp only
    rcases w.read i (queryFrame w.codec (rewriteLan x.msg)) with err | replyB
    · rfl
    · obtain ⟨res, hres⟩ := unpackDNS_isSome w.codec replyB
      dsimp only
      rw [hres]
      rcases res with err | reply
      · dsimp only
        rw [List.append_nil]
        rfl
      · dsimp only
        split_ifs <;> rfl

/-- A step in which the method does nothing yet. -/
theorem Serves.skip (h : Serves re w s' t' fun _ => m s.resolver) (hstep : queryStep re s t w = some (s', t', [])) :
    Serves re w s t m := h.step hstep rfl

/-- A reply is kept and written. -/
theorem Serves.found {f : Fetched ρ} (hm : closing m s.resolver = .ok (⟨⟩, ((s.store f).finish f).resolver)) :
    Serves re w s (.found f) m := by
  have hstored : Serves re w (s.store f) (.stored f) fun _ => m s.resolver :=
    Serves.over (t := .fetched f) rfl trivial hm
  exact hstored.skip rfl

theorem passes_of_le {n : Int} (h : s.clock ≤ n) : s.passes n = some { s with clock := n } := if_pos h

theorem closing_congr {c c' : Resolver ρ} (h : m c = m' c') : closing m c = closing m' c' := by
  show (m c >>= _) = _
  rw [h]
  rfl

theorem closing_of_ok {c c' : Resolver ρ} (h : m c = .ok (⟨⟩, c')) :
    closing m c = .ok (⟨⟩, { c' with closed := true }) := bind_apply_ok _ h

/-- Behind an attempt that has failed the next one is made. -/
theorem lastly_failed {left i : Nat} {x : Query ρ} {c c' : Resolver ρ}
    (hcall : resolveRemoteOld w i x.msg c = .ok (false, c')) :
    lastly w (left + 1) i x.msg c = lastly w left (i + 1) x.rewrite.msg c' := by
  have hattempts : attempts w (left + 1) i x.msg c = attempts w left (i + 1) x.rewrite.msg c' := by
    rw [attempts, bind_apply_ok _ hcall]
    rfl
  show (attempts w (left + 1) i x.msg c >>= _) = _
  rw [hattempts]
  rfl

/-- Behind an attempt that has an answer none is made. -/
theorem lastly_answered {left i : Nat} {msg : Msg ρ} {c c' : Resolver ρ}
    (hcall : resolveRemoteOld w i msg c = .ok (true, c')) :
    lastly w (left + 1) i msg c = .ok (⟨⟩, { c' with queryWait := c'.queryWait + -1 }) := by
  have hattempts : attempts w (left + 1) i msg c = .ok ((true, rewriteLan msg), c') := by
    rw [attempts, bind_apply_ok _ hcall]
    rfl
  rw [lastly, bind_apply_ok _ hattempts]
  rfl

/-- The attempts. -/
theorem serves_trying (hnow : ∀ j, w.now j ≤ w.now (j + 1)) (left i : Nat) (x : Query ρ)
    (hclock : s.clock ≤ w.now (i + 1)) : Serves re w s (.trying left i x) (lastly w left i x.msg) := by
  induction left generalizing i x s with
  | zero =>
    have hstep : queryStep re s (.trying 0 i x) w = some (s.write x.msg, .unanswered x.msg, []) := rfl
    exact Serves.over hstep trivial rfl
  | succ left ih =>
    have hcall := resolveRemoteOld_eq w i x s.resolver
    rcases hreply : tunnelReply w i x.msg with errs | ⟨eid, reply⟩
    · have hstep : queryStep re s (.trying (left + 1) i x) w =
          some (({ s with clock := w.now (i + 1) } : Package ρ).errRecord errs, .trying left (i + 1) x.rewrite, []) := by
        unfold queryStep
        simp only [passes_of_le hclock, Option.bind_eq_bind, Option.bind_some, hreply]
      rw [hreply] at hcall
      exact (ih (i + 1) x.rewrite (hnow _)).step hstep (closing_congr (lastly_failed hcall))
    · have hstep : queryStep re s (.trying (left + 1) i x) w =
          some ({ s with clock := w.now (i + 1) }, .found ⟨some eid, x.q.name, w.now (i + 1), reply⟩, []) := by
        unfold queryStep
        simp only [passes_of_le hclock, Option.bind_eq_bind, Option.bind_some, hreply]
      rw [hreply] at hcall
      refine (Serves.found ?_).skip hstep
      refine (closing_of_ok (lastly_answered hcall)).trans ?_
      unfold Package.finish Package.store Fetched.kept
      by_cases hips : addresses reply.answer = []
      · simp only [hips]
        rfl
      · simp only [if_neg hips, List.isEmpty_eq_false_iff.mpr hips]
        rfl

/-- The local resolver, where the name is local. -/
theorem serves_routing (hnow : ∀ j, w.now j ≤ w.now (j + 1)) (hlocal : w.isLocal = isLocal re s.rules) (x : Query ρ)
    (hclock : s.clock ≤ w.now 0) : Serves re w s (.routing x) (resolveRouter w x.msg) := by
  have hfirst : firstQuestion x.msg s.resolver = .ok (x.q, s.resolver) := x.firstQuestion _
  by_cases hname : w.isLocal x.q.name = true
  · have hstep : queryStep re s (.routing x) w = some (s, .resolving x, []) := by
      show some (s, if isLocal re s.rules x.q.name then _ else _, []) = _
      rw [← hlocal, if_pos hname]
    have hcall := resolveLocal_eq w x s.resolver
    have hif : resolveIfLocal w x.msg s.resolver = resolveLocal w x.msg s.resolver := by
      unfold resolveIfLocal
      rw [bind_apply_ok _ hfirst, if_pos hname]
    refine Serves.skip ?_ hstep
    rcases hreply : localReply w x.msg with _ | reply
    · rw [hreply] at hcall
      have hnext : queryStep re s (.resolving x) w = some ({ s with clock := w.now 0 }, .trying 3 0 x, []) := by
        unfold queryStep
        simp only [passes_of_le hclock, Option.bind_eq_bind, Option.bind_some, hreply]
      refine (serves_trying hnow 3 0 x (hnow 0)).step hnext (closing_congr ?_)
      unfold resolveRouter
      rw [bind_apply_ok _ (hif.trans hcall)]
      rfl
    · rw [hreply] at hcall
      have hnext : queryStep re s (.resolving x) w =
          some ({ s with clock := w.now 0 }, .found ⟨none, x.q.name, w.now 0, reply⟩, []) := by
        unfold queryStep
        simp only [passes_of_le hclock, Option.bind_eq_bind, Option.bind_some, hreply]
      refine (Serves.found ?_).skip hnext
      have hrouted := bind_apply_ok (fun answered : Bool =>
        if answered then addQueryWait (-1) else lastly w 3 0 x.msg) (hif.trans hcall)
      refine (closing_of_ok hrouted).trans ?_
      unfold Package.finish Package.store
      simp only [Option.toList_none, List.append_nil]
      rfl
  · have hstep : queryStep re s (.routing x) w = some (s, .trying 3 0 x, []) := by
      show some (s, if isLocal re s.rules x.q.name then _ else _, []) = _
      rw [← hlocal, if_neg hname]
    have hif : resolveIfLocal w x.msg s.resolver = .ok (false, s.resolver) := by
      unfold resolveIfLocal
      rw [bind_apply_ok _ hfirst, if_neg hname]
      rfl
    refine (serves_trying hnow 3 0 x (hclock.trans (hnow 0))).step hstep (closing_congr ?_)
    unfold resolveRouter
    rw [bind_apply_ok _ hif]
    rfl

/-- What is done behind a cache miss. -/
def behindMiss (w : World ρ) (msg : Msg ρ) : Method (Resolver ρ) PUnit := do
  addQueryWait 1
  if w.isRouter then resolveRouter w msg else writeMsg msg

theorem serves_missed (hnow : ∀ j, w.now j ≤ w.now (j + 1)) (hlocal : w.isLocal = isLocal re s.rules) (x : Query ρ)
    (hclock : s.clock ≤ w.now 0) : Serves re w s (.missed x) (behindMiss w x.msg) := by
  by_cases hrouter : w.isRouter = true
  · have hstep : queryStep re s (.missed x) w = some (s.wait 1, .routing x, []) := by
      show some (s.wait 1, if w.isRouter then _ else _, []) = _
      rw [if_pos hrouter]
    refine (serves_routing (s := s.wait 1) hnow hlocal x hclock).step hstep (closing_congr ?_)
    unfold behindMiss
    rw [if_pos hrouter]
    rfl
  · have hstep : queryStep re s (.missed x) w = some (s.wait 1, .trying 0 0 x, []) := by
      show some (s.wait 1, if w.isRouter then _ else _, []) = _
      rw [if_neg hrouter]
    refine (serves_trying (s := s.wait 1) hnow 0 0 x (hclock.trans (hnow 0))).step hstep (closing_congr ?_)
    unfold behindMiss
    rw [if_neg hrouter]
    rfl

theorem serves_looking (hnow : ∀ j, w.now j ≤ w.now (j + 1)) (hlocal : w.isLocal = isLocal re s.rules) (x : Query ρ)
    (hclock : s.clock ≤ w.now 0) : Serves re w s (.looking x) (resolveA w x.msg) := by
  have hcache : resolveCache w x.msg s.resolver =
      match s.resolver.domainsToAddresses.lookup x.q.name with
      | none => .ok (false, s.resolver)
      | some r =>
          if w.now 0 < r.timeout then
            .ok (true, { s.resolver with
              written := s.resolver.written ++ [{ x.msg with answer := cachedAnswer w x.q.name r.ips }] })
          else .ok (false, (s.forget x.q.name).resolver) := by
    unfold resolveCache
    rw [bind_apply_ok _ (x.firstQuestion s.resolver), get_bind_apply]
    rcases s.resolver.domainsToAddresses.lookup x.q.name with _ | r
    · rfl
    · dsimp only
      split_ifs <;> rfl
  have hlook : queryStep re s (.looking x) w =
      match s.resolver.domainsToAddresses.lookup x.q.name with
      | none => some ({ s with clock := w.now 0 }, .missed x, [])
      | some r =>
          if w.now 0 < r.timeout then
            let m := { x.msg with answer := cachedAnswer w x.q.name r.ips }
            some (({ s with clock := w.now 0 } : Package ρ).write m, .cached m x.q.name r (w.now 0), [])
          else some ({ s with clock := w.now 0 }, .expired x, []) := by
    show (s.passes (w.now 0)).bind _ = _
    rw [passes_of_le hclock]
    rfl
  rcases hlookup : s.resolver.domainsToAddresses.lookup x.q.name with _ | r
  · rw [hlookup] at hcache hlook
    have hmiss : resolveA w x.msg s.resolver = behindMiss w x.msg s.resolver := by
      unfold resolveA
      rw [bind_apply_ok _ hcache]
      rfl
    exact (serves_missed (s := { s with clock := w.now 0 }) hnow hlocal x le_rfl).step hlook (closing_congr hmiss)
  · rw [hlookup] at hcache hlook
    dsimp only at hcache hlook
    split_ifs at hcache hlook with htime
    · have hhit : resolveA w x.msg s.resolver = .ok (⟨⟩, { s.resolver with
          written := s.resolver.written ++ [{ x.msg with answer := cachedAnswer w x.q.name r.ips }] }) := by
        unfold resolveA
        rw [bind_apply_ok _ hcache]
        rfl
      exact Serves.over hlook trivial (closing_of_ok hhit)
    · have hmiss : resolveA w x.msg s.resolver = behindMiss w x.msg (s.forget x.q.name).resolver := by
        unfold resolveA
        rw [bind_apply_ok _ hcache]
        rfl
      have hforget : Serves re w { s with clock := w.now 0 } (.expired x) fun _ => resolveA w x.msg s.resolver := by
        refine (serves_missed (s := ({ s with clock := w.now 0 } : Package ρ).forget x.q.name) hnow hlocal x le_rfl).step
          rfl (closing_congr hmiss)
      exact hforget.skip hlook

/-- **A query alone is served as `ServeDNS` serves it**: with no step of others between its own, its goroutine ends, in
the state that `ServeDNS` leaves. -/
theorem serveDNS_alone (re : Regexp) (w : World ρ) (r : Msg ρ) (s : Package ρ) (hclock : s.clock ≤ w.now 0)
    (hnow : ∀ j, w.now j ≤ w.now (j + 1)) (hlocal : w.isLocal = isLocal re s.rules) :
    ∃ n s' t, runAll (queries ρ re).step? (List.replicate n (.step 0 w)) ⟨s, [(queries ρ re).start (.serveDNS r)]⟩ =
      some ⟨s', [t]⟩ ∧ t.Over ∧ serveDNS w r s.resolver = .ok (⟨⟩, s'.resolver) := by
  show Serves re w s (.asked r) (serveQuestion w r)
  rcases hr : r.question with _ | ⟨q, rest⟩
  · have hstep : queryStep re s (.asked r) w = some (s.write (replyTo w r), .unanswered (replyTo w r), []) := by
      simp only [queryStep, hr]
    have hserve : serveQuestion w r s.resolver =
        .ok (⟨⟩, { s.resolver with written := s.resolver.written ++ [replyTo w r] }) := by
      simp only [serveQuestion, hr]
      rfl
    exact Serves.over hstep trivial (closing_of_ok hserve)
  · by_cases hq : q.qtype = typeA
    · have hstep : queryStep re s (.asked r) w =
          some (s, .looking ⟨q, w.authoritative (w.setReply r.rest)⟩, []) := by
        simp only [queryStep, hr, if_pos hq]
      refine (serves_looking hnow hlocal _ hclock).step hstep (closing_congr ?_)
      simp only [serveQuestion, hr, if_pos hq, replyTo]
      rfl
    · have hstep : queryStep re s (.asked r) w = some (s.write (replyTo w r), .unanswered (replyTo w r), []) := by
        simp only [queryStep, hr, if_neg hq]
      have hserve : serveQuestion w r s.resolver =
          .ok (⟨⟩, { s.resolver with written := s.resolver.written ++ [replyTo w r] }) := by
        simp only [serveQuestion, hr, if_neg hq]
        rfl
      exact Serves.over hstep trivial (closing_of_ok hserve)

end Alone

end ProxyZ.Dns
