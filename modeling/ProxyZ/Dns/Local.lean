import ProxyZ.Dns.Query
import ProxyZ.Go.Dict
import ProxyZ.Go.Program

/-!
# The local DNS server

`ServeDNS` answers a query for an address from its cache, from the local resolver, or through a tunnel, which it
tries three times, and with an empty reply where none of these has answered. Each of them reports with a flag
whether it has written its answer, and however they end one message is written (`serveDNS_once`).

`ResolveRemoteOld` takes the message by value, but its questions are a slice: the question it rewrites for a
name that ends in `.lan.` is the one the caller sees.
-/

namespace ProxyZ.Dns

open Go Method

structure DNSRecord where
  host : Str := []
  ips : List Str := []
  timeout : Int

/-- The maps of the package, what the handler has asked of the tunnels, and what has been written. -/
structure Resolver (ρ : Type) where
  domainsToAddresses : Dict DNSRecord := ∅
  ip2host : Dict Str := ∅
  local2host : Dict Str := ∅
  queryWait : Int := 0
  errRecords : List (Str × Nat) := []
  errVanished : List Str := []
  written : List (Msg ρ) := []
  closed : Bool := false

/-- What a query finds outside: the DNS library, the host, and the tunnels. `connectRemote` and `read` are asked
with the number of the attempt, `now` with the number of attempts before. -/
structure World (ρ : Type) where
  codec : Codec ρ
  setReply : ρ → ρ
  authoritative : ρ → ρ
  isRouter : Bool
  isLocal : Str → Bool
  now : Nat → Int
  rand : Nat
  parseIP : Str → IP
  lookupIP : Str → Except Err (List IP)
  connectRemote : Nat → Except Str Str
  read : Nat → Bytes → Except Err Bytes

def typeA : Nat := 1

def minute : Int := 60000000000

section Resolve

variable {ρ : Type} (w : World ρ)

def writeMsg (msg : Msg ρ) : Method (Resolver ρ) PUnit :=
  modifyThe (Resolver ρ) fun s => { s with written := s.written ++ [msg] }

/-- `msg.Question[0]`. -/
def firstQuestion (msg : Msg ρ) : Method (Resolver ρ) Question :=
  match msg.question with
  | q :: _ => pure q
  | [] => throw .panic

/-- The addresses a cached record is answered with: one by chance, and the others behind it. -/
def cachedAnswer (domain : Str) (ips : List Str) : List (Rr ρ) :=
  match ips[w.rand % ips.length]? with
  | none => []
  | some ip =>
      .a domain 80 (w.parseIP ip) :: (ips.filter fun nip => nip ≠ ip).map fun nip => .a domain 80 (w.parseIP nip)

def resolveCache (msg : Msg ρ) : Method (Resolver ρ) Bool := do
  let q ← firstQuestion msg
  let s ← get
  match s.domainsToAddresses.lookup q.name with
  | none => return false
  | some addressR =>
      if w.now 0 < addressR.timeout then do
        writeMsg { msg with answer := msg.answer ++ cachedAnswer w q.name addressR.ips }
        return true
      else do
        modifyThe (Resolver ρ) fun s => { s with domainsToAddresses := s.domainsToAddresses.erase q.name }
        return false

/-- The addresses of the answers that are kept in a record. -/
def addresses (answer : List (Rr ρ)) : List Str :=
  answer.filterMap fun o =>
    match o with
    | .a _ _ ip => if ipString ip = [] ∨ ipString ip = str "0.0.0.0" then none else some (ipString ip)
    | .other _ => none

def insertAll (ips : List Str) (domain : Str) (d : Dict Str) : Dict Str :=
  ips.foldl (fun d i => d.insert i domain) d

def resolveLocal (msg : Msg ρ) : Method (Resolver ρ) Bool := do
  let q ← firstQuestion msg
  match replyDNS w.codec w.lookupIP (packDNS w.codec msg) with
  | none => throw .panic
  | some (_, some _) => return false
  | some (r, none) =>
      match unpackDNS w.codec r with
      | none => throw .panic
      | some (.error _) => return false
      | some (.ok replymsg) =>
          if replymsg.answer = [] then return false
          else do
            let ips := addresses replymsg.answer
            modifyThe (Resolver ρ) fun s =>
              { s with
                domainsToAddresses := s.domainsToAddresses.insert q.name { ips, timeout := w.now 0 + 60 * minute }
                ip2host := insertAll ips q.name s.ip2host
                local2host := insertAll ips q.name s.local2host }
            writeMsg replymsg
            return true

/-- The question a query through a tunnel asks. -/
def withoutLan (q : Question) : Question :=
  if hasSuffix q.name (str ".lan.") then
    { name := replaceAll q.name (str ".lan.") (str "."), qtype := typeA, qclass := q.qclass }
  else q

/-- `msg.Question[0] = …`, which the caller sees. -/
def rewriteLan (msg : Msg ρ) : Msg ρ :=
  match msg.question with
  | q :: rest => { msg with question := withoutLan q :: rest }
  | [] => msg

/-- `ResolveRemoteOld` in the attempt `i`. -/
def resolveRemoteOld (i : Nat) (msg : Msg ρ) : Method (Resolver ρ) Bool := do
  let q ← firstQuestion msg
  match w.connectRemote i with
  | .error eid => do
      modifyThe (Resolver ρ) fun s => { s with errRecords := s.errRecords ++ [(eid, 2)] }
      return false
  | .ok eid =>
      match w.read i (queryFrame w.codec (rewriteLan msg)) with
      | .error _ => do
          modifyThe (Resolver ρ) fun s => { s with errRecords := s.errRecords ++ [(eid, 1)] }
          return false
      | .ok replyB =>
          match unpackDNS w.codec replyB with
          | none => throw .panic
          | some (.error _) => return false
          | some (.ok replymsg) => do
              let ips := addresses replymsg.answer
              if ips = [] then pure ()
              else
                modifyThe (Resolver ρ) fun s =>
                  { s with
                    domainsToAddresses :=
                      s.domainsToAddresses.insert q.name { host := q.name, ips, timeout := w.now (i + 1) + 5 * minute }
                    ip2host := insertAll ips q.name s.ip2host }
              writeMsg replymsg
              modifyThe (Resolver ρ) fun s => { s with errVanished := s.errVanished ++ [eid] }
              return true

/-- The attempts from the `i`-th on: whether one has answered, and the message as they leave it. -/
def attempts : Nat → Nat → Msg ρ → Method (Resolver ρ) (Bool × Msg ρ)
  | 0, _, msg => return (false, msg)
  | n + 1, i, msg => do
      let answered ← resolveRemoteOld w i msg
      if answered then return (true, rewriteLan msg) else attempts n (i + 1) (rewriteLan msg)

def addQueryWait (n : Int) : Method (Resolver ρ) PUnit :=
  modifyThe (Resolver ρ) fun s => { s with queryWait := s.queryWait + n }

/-- The local resolver is asked for local names only. -/
def resolveIfLocal (msg : Msg ρ) : Method (Resolver ρ) Bool := do
  let q ← firstQuestion msg
  if w.isLocal q.name then resolveLocal w msg else return false

/-- What a router does behind a cache miss. -/
def resolveRouter (msg : Msg ρ) : Method (Resolver ρ) PUnit := do
  if ← resolveIfLocal w msg then addQueryWait (-1)
  else do
    let (answered, msg) ← attempts w 3 0 msg
    if answered then addQueryWait (-1) else writeMsg msg

/-- The case of an address query. -/
def resolveA (msg : Msg ρ) : Method (Resolver ρ) PUnit := do
  if ← resolveCache w msg then return
  else do
    addQueryWait 1
    if w.isRouter then resolveRouter w msg else writeMsg msg

/-- The message `SetReply` makes: it has the first question of the query. -/
def replyTo (r : Msg ρ) : Msg ρ := ⟨r.question.take 1, [], w.setReply r.rest⟩

/-- `ServeDNS` up to the deferred `w.Close()`. -/
def serveQuestion (r : Msg ρ) : Method (Resolver ρ) PUnit :=
  match r.question with
  | [] => writeMsg (replyTo w r)
  | q :: _ =>
      if q.qtype = typeA then resolveA w { replyTo w r with rest := w.authoritative (w.setReply r.rest) }
      else writeMsg (replyTo w r)

def serveDNS (r : Msg ρ) : Method (Resolver ρ) PUnit := do
  serveQuestion w r
  modifyThe (Resolver ρ) fun s => { s with closed := true }

end Resolve

/-! ### What a step of the resolution does -/

/-- With the flag set it has written one message, which is `good`, and without it none. It changes the cache
at the keys with `K` only. -/
structure Resolves {ρ : Type} (good : Msg ρ → Prop) (K : Str → Prop) (answered : Bool) (s s' : Resolver ρ) : Prop where
  written : if answered then ∃ m, good m ∧ s'.written = s.written ++ [m] else s'.written = s.written
  cache : ∀ k, ¬K k → s'.domainsToAddresses.lookup k = s.domainsToAddresses.lookup k

section Spec

variable {ρ : Type} {w : World ρ} {good : Msg ρ → Prop} {K : Str → Prop} {s s' s'' : Resolver ρ} {msg : Msg ρ}
  {q : Question} {rest : List Question}

theorem Resolves.trans {b : Bool} (h : Resolves good K false s s') (h' : Resolves good K b s' s'') :
    Resolves good K b s s'' where
  written := by
    have hsame : s'.written = s.written := h.written
    rw [← hsame]
    exact h'.written
  cache := fun k hk => (h'.cache k hk).trans (h.cache k hk)

theorem Resolves.mono {good' : Msg ρ → Prop} {K' : Str → Prop} {b : Bool} (h : Resolves good K b s s')
    (hgood : ∀ m, good m → good' m) (hK : ∀ k, K k → K' k) : Resolves good' K' b s s' where
  written := by
    have hwritten := h.written
    cases b with
    | false => exact hwritten
    | true =>
      obtain ⟨m, hm, hm'⟩ := hwritten
      exact ⟨m, hgood m hm, hm'⟩
  cache := fun k hk => h.cache k fun hk' => hk (hK k hk')

/-- Where nothing has been written, any message is as good. -/
theorem Resolves.unanswered {good' : Msg ρ → Prop} {K' : Str → Prop} (h : Resolves good K false s s')
    (hK : ∀ k, K k → K' k) : Resolves good' K' false s s' where
  written := h.written
  cache := fun k hk => h.cache k fun hk' => hk (hK k hk')

theorem firstQuestion_eq (hq : msg.question = q :: rest) (s : Resolver ρ) : firstQuestion msg s = .ok (q, s) := by
  unfold firstQuestion
  rw [hq]
  rfl

/-- Whether the cache has an answer that is not too old. -/
def CacheAnswers (w : World ρ) (s : Resolver ρ) (name : Str) : Prop :=
  ∃ r, s.domainsToAddresses.lookup name = some r ∧ w.now 0 < r.timeout

theorem resolveCache_spec (hq : msg.question = q :: rest) (s : Resolver ρ) :
    ∃ b s', resolveCache w msg s = .ok (b, s') ∧ (b = true ↔ CacheAnswers w s q.name) ∧
      Resolves (fun m => m.question = msg.question) (fun k => k = q.name) b s s' := by
  unfold resolveCache
  rw [bind_apply_ok _ (firstQuestion_eq hq s), get_bind_apply]
  rcases hlookup : s.domainsToAddresses.lookup q.name with _ | addressR
  · refine ⟨false, s, rfl, iff_of_false nofun ?_, rfl, fun _ _ => rfl⟩
    rintro ⟨r, hr, -⟩
    rw [hlookup] at hr
    cases hr
  · dsimp only
    split_ifs with hnow
    · refine ⟨true, _, rfl, iff_of_true rfl ⟨addressR, hlookup, hnow⟩, ⟨?_, fun _ _ => rfl⟩⟩
      exact ⟨{ msg with answer := msg.answer ++ cachedAnswer w q.name addressR.ips }, rfl, rfl⟩
    · refine ⟨false, _, rfl, iff_of_false nofun ?_, rfl, fun k hk => AList.lookup_erase_ne hk⟩
      rintro ⟨r, hr, hlt⟩
      rw [hlookup] at hr
      cases hr
      exact hnow hlt

/-- Whether the local resolver has an answer. -/
def LocalAnswers (w : World ρ) (msg : Msg ρ) : Prop :=
  ∃ r replymsg, replyDNS w.codec w.lookupIP (packDNS w.codec msg) = some (r, none) ∧
    unpackDNS w.codec r = some (.ok replymsg) ∧ replymsg.answer ≠ []

theorem replyDNS_isSome (codec : Codec ρ) (lookupIP : Str → Except Err (List IP)) (dnsmsg : Str) :
    ∃ res, replyDNS codec lookupIP dnsmsg = some res := by
  obtain ⟨res, hres⟩ := unpackDNS_isSome codec dnsmsg
  unfold replyDNS
  rw [hres]
  rcases res with err | r
  · exact ⟨_, rfl⟩
  · rcases hq : r.question with _ | ⟨q, rest⟩
    · exact ⟨_, by simp only [Option.bind_eq_bind, Option.bind_some, hq]; rfl⟩
    · exact ⟨_, by simp only [Option.bind_eq_bind, Option.bind_some, hq]; rfl⟩

/-- The local resolver answers the question it has been asked. -/
theorem question_of_replyDNS {codec : Codec ρ} (hinv : codec.Inverse) {lookupIP : Str → Except Err (List IP)}
    {r : Str} {replymsg : Msg ρ} (hreply : replyDNS codec lookupIP (packDNS codec msg) = some (r, none))
    (hunpack : unpackDNS codec r = some (.ok replymsg)) : replymsg.question = msg.question := by
  unfold replyDNS at hreply
  obtain ⟨res, hres, hmatch⟩ := Option.bind_eq_some_iff.mp hreply
  rcases res with err | m
  · cases hmatch
  · have hm : m = msg := eq_of_unpackDNS_packDNS codec hinv hres
    subst hm
    dsimp only at hmatch
    rcases hq : m.question with _ | ⟨q, rest⟩
    · rw [hq] at hmatch
      cases hmatch
    · rw [hq] at hmatch
      cases hmatch
      rw [eq_of_unpackDNS_packDNS codec hinv hunpack, ← hq]
      unfold replyMsg
      split <;> rfl

theorem resolveLocal_spec (hq : msg.question = q :: rest) (s : Resolver ρ) :
    ∃ b s', resolveLocal w msg s = .ok (b, s') ∧ (b = true ↔ LocalAnswers w msg) ∧
      Resolves (fun m => w.codec.Inverse → m.question = msg.question) (fun k => k = q.name) b s s' := by
  unfold resolveLocal
  rw [bind_apply_ok _ (firstQuestion_eq hq s)]
  obtain ⟨⟨r, err⟩, hreply⟩ := replyDNS_isSome w.codec w.lookupIP (packDNS w.codec msg)
  obtain ⟨res, hres⟩ := unpackDNS_isSome w.codec r
  rw [hreply]
  rcases err with _ | err
  · dsimp only
    rw [hres]
    rcases res with err | replymsg
    · refine ⟨false, s, rfl, iff_of_false nofun ?_, rfl, fun _ _ => rfl⟩
      rintro ⟨r', m, hr', hm, -⟩
      cases hreply.symm.trans hr'
      cases hres.symm.trans hm
    · dsimp only
      split_ifs with hanswer
      · refine ⟨false, s, rfl, iff_of_false nofun ?_, rfl, fun _ _ => rfl⟩
        rintro ⟨r', m, hr', hm, hne⟩
        cases hreply.symm.trans hr'
        cases hres.symm.trans hm
        exact hne hanswer
      · refine ⟨true, _, rfl, iff_of_true rfl ⟨r, replymsg, hreply, hres, hanswer⟩, ⟨replymsg, ?_, rfl⟩, ?_⟩
        · exact fun hinv => question_of_replyDNS hinv hreply hres
        · exact fun k hk => AList.lookup_insert_ne hk
  · refine ⟨false, s, rfl, iff_of_false nofun ?_, rfl, fun _ _ => rfl⟩
    rintro ⟨r', m, hr', -, -⟩
    cases hreply.symm.trans hr'

/-- The server behind the tunnels echoes the question it has received: what can be read as a reply to a frame has
the question of a message that the frame brings. -/
def World.Echoes (w : World ρ) : Prop :=
  ∀ i frame replyB m, w.read i frame = .ok replyB → unpackDNS w.codec replyB = some (.ok m) →
    ∃ msg buf, w.codec.pack msg = .ok buf ∧ frame = queryFrame w.codec msg ∧ m.question = msg.question

theorem packDNS_of_queryFrame {codec : Codec ρ} {m m' : Msg ρ} (h : queryFrame codec m = queryFrame codec m') :
    packDNS codec m = packDNS codec m' := by
  rw [queryFrame_eq, queryFrame_eq, List.append_cancel_left_eq] at h
  exact List.append_cancel_right (List.cons.inj h).2

theorem question_of_echo (hinv : w.codec.Inverse) (hecho : w.Echoes) {i : Nat} {replyB : Bytes} {replymsg : Msg ρ}
    (hread : w.read i (queryFrame w.codec msg) = .ok replyB) (hunpack : unpackDNS w.codec replyB = some (.ok replymsg)) :
    replymsg.question = msg.question := by
  obtain ⟨m, buf, hpack, hframe, hquestion⟩ := hecho i _ replyB replymsg hread hunpack
  have hm : unpackDNS w.codec (packDNS w.codec msg) = some (.ok m) := by
    rw [packDNS_of_queryFrame hframe]
    exact unpackDNS_packDNS w.codec hinv hpack
  rw [hquestion, eq_of_unpackDNS_packDNS w.codec hinv hm]

theorem question_rewriteLan (hq : msg.question = q :: rest) : (rewriteLan msg).question = withoutLan q :: rest := by
  unfold rewriteLan
  rw [hq]

theorem resolveRemoteOld_spec (i : Nat) (hq : msg.question = q :: rest) (s : Resolver ρ) :
    ∃ b s', resolveRemoteOld w i msg s = .ok (b, s') ∧
      Resolves (fun m => w.codec.Inverse → w.Echoes → m.question = (rewriteLan msg).question) (fun k => k = q.name)
        b s s' := by
  unfold resolveRemoteOld
  rw [bind_apply_ok _ (firstQuestion_eq hq s)]
  rcases w.connectRemote i with eid | eid
  · exact ⟨false, _, rfl, rfl, fun _ _ => rfl⟩
  · dsimp only
    rcases hread : w.read i (queryFrame w.codec (rewriteLan msg)) with err | replyB
    · exact ⟨false, _, rfl, rfl, fun _ _ => rfl⟩
    · obtain ⟨res, hres⟩ := unpackDNS_isSome w.codec replyB
      dsimp only
      rw [hres]
      rcases res with err | replymsg
      · exact ⟨false, s, rfl, rfl, fun _ _ => rfl⟩
      · dsimp only
        have hgood : w.codec.Inverse → w.Echoes → replymsg.question = (rewriteLan msg).question :=
          fun hinv hecho => question_of_echo hinv hecho hread hres
        split_ifs
        · exact ⟨true, _, rfl, ⟨replymsg, hgood, rfl⟩, fun _ _ => rfl⟩
        · exact ⟨true, _, rfl, ⟨replymsg, hgood, rfl⟩, fun k hk => AList.lookup_insert_ne hk⟩

/-- The message asks for a name with `J`. -/
def Asks (J : Str → Prop) (m : Msg ρ) : Prop := ∃ q rest, m.question = q :: rest ∧ J q.name

/-- `J` survives the rewriting of a question. -/
def Closed (J : Str → Prop) : Prop := ∀ q : Question, J q.name → J (withoutLan q).name

/-- **The attempts**: they leave the message, and write one, with a name as the rewriting makes it. -/
theorem attempts_spec {J : Str → Prop} (hJ : Closed J) (hK : Closed K) (n i : Nat) (hq : msg.question = q :: rest)
    (hJq : J (withoutLan q).name) (hKq : K q.name) (s : Resolver ρ) :
    ∃ b msg' s', attempts w (n + 1) i msg s = .ok ((b, msg'), s') ∧ Asks J msg' ∧
      Resolves (fun m => w.codec.Inverse → w.Echoes → Asks J m) K b s s' := by
  induction n generalizing i msg q s with
  | zero =>
    obtain ⟨b, s', hcall, hresolves⟩ := resolveRemoteOld_spec (w := w) i hq s
    have hasks : Asks J (rewriteLan msg) := ⟨withoutLan q, rest, question_rewriteLan hq, hJq⟩
    refine ⟨b, rewriteLan msg, s', ?_, hasks, hresolves.mono ?_ ?_⟩
    · rw [attempts, bind_apply_ok _ hcall]
      cases b <;> rfl
    · intro m hm hinv hecho
      exact ⟨withoutLan q, rest, (hm hinv hecho).trans (question_rewriteLan hq), hJq⟩
    · exact fun k hk => hk ▸ hKq
  | succ n ih =>
    obtain ⟨b, s', hcall, hresolves⟩ := resolveRemoteOld_spec (w := w) i hq s
    have hfirst : Resolves (fun m => w.codec.Inverse → w.Echoes → Asks J m) K b s s' := by
      apply hresolves.mono
      · intro m hm hinv hecho
        exact ⟨withoutLan q, rest, (hm hinv hecho).trans (question_rewriteLan hq), hJq⟩
      · exact fun k hk => hk ▸ hKq
    rw [attempts, bind_apply_ok _ hcall]
    cases b with
    | true => exact ⟨true, rewriteLan msg, s', rfl, ⟨_, rest, question_rewriteLan hq, hJq⟩, hfirst⟩
    | false =>
      obtain ⟨b, msg', s'', hrest, hasks, hlast⟩ :=
        ih (i + 1) (question_rewriteLan hq) (hJ _ hJq) (hK _ hKq) s'
      exact ⟨b, msg', s'', hrest, hasks, hfirst.trans hlast⟩

/-- Whether a query for the first question of the message is tried through a tunnel. -/
def Attempted (w : World ρ) (s : Resolver ρ) (msg : Msg ρ) (name : Str) : Prop :=
  w.isRouter = true ∧ ¬CacheAnswers w s name ∧ ¬(w.isLocal name = true ∧ LocalAnswers w msg)

theorem Resolves.addQueryWait {b : Bool} (h : Resolves good K b s s') (n : Int) :
    Resolves good K b s { s' with queryWait := s'.queryWait + n } := ⟨h.written, h.cache⟩

theorem Resolves.write (h : Resolves good K false s s') (hmsg : good msg) :
    Resolves good K true s { s' with written := s'.written ++ [msg] } where
  written := by
    have hsame : s'.written = s.written := h.written
    rw [hsame]
    exact ⟨msg, hmsg, rfl⟩
  cache := h.cache

theorem Resolves.refl (s : Resolver ρ) : Resolves good K false s s := ⟨rfl, fun _ _ => rfl⟩

theorem resolveIfLocal_spec (hq : msg.question = q :: rest) (s : Resolver ρ) :
    ∃ b s', resolveIfLocal w msg s = .ok (b, s') ∧ (b = true ↔ w.isLocal q.name = true ∧ LocalAnswers w msg) ∧
      Resolves (fun m => w.codec.Inverse → m.question = msg.question) (fun k => k = q.name) b s s' := by
  unfold resolveIfLocal
  rw [bind_apply_ok _ (firstQuestion_eq hq s)]
  split_ifs with hlocal
  · obtain ⟨b, s', hcall, hiff, hresolves⟩ := resolveLocal_spec (w := w) hq s
    exact ⟨b, s', hcall, hiff.trans (iff_and_self.mpr fun _ => hlocal), hresolves⟩
  · exact ⟨false, s, rfl, iff_of_false nofun fun h => hlocal h.1, .refl s⟩

/-- What is known of the message an address query is answered with. -/
def Answer (w : World ρ) (s : Resolver ρ) (msg : Msg ρ) (name : Str) (J : Str → Prop) (m : Msg ρ) : Prop :=
  w.codec.Inverse → w.Echoes →
    (¬Attempted w s msg name → m.question = msg.question) ∧ (Attempted w s msg name → Asks J m)

theorem resolveRouter_spec {J : Str → Prop} (hq : msg.question = q :: rest) (hKq : K q.name) (s : Resolver ρ)
    (hrouter : w.isRouter = true) (hmiss : ¬CacheAnswers w s q.name)
    (hclosed : Attempted w s msg q.name → Closed J ∧ Closed K ∧ J (withoutLan q).name) (s₁ : Resolver ρ) :
    ∃ s', resolveRouter w msg s₁ = .ok (⟨⟩, s') ∧ Resolves (Answer w s msg q.name J) K true s₁ s' := by
  obtain ⟨b, s₂, hcall, hiff, hresolves⟩ := resolveIfLocal_spec (w := w) hq s₁
  unfold resolveRouter
  rw [bind_apply_ok _ hcall]
  cases b with
  | true =>
    have hlocal : ¬Attempted w s msg q.name := fun h => h.2.2 (hiff.mp rfl)
    refine ⟨_, rfl, Resolves.addQueryWait (hresolves.mono ?_ ?_) (-1)⟩
    · exact fun m hm hinv _ => ⟨fun _ => hm hinv, fun h => absurd h hlocal⟩
    · exact fun k hk => hk ▸ hKq
  | false =>
    have hattempted : Attempted w s msg q.name :=
      ⟨hrouter, hmiss, fun h => Bool.false_ne_true (hiff.mpr h)⟩
    obtain ⟨hJ, hK, hJq⟩ := hclosed hattempted
    obtain ⟨b, msg', s₃, hattempts, hasks, hlast⟩ := attempts_spec (w := w) hJ hK 2 0 hq hJq hKq s₂
    have hanswer : ∀ m, (w.codec.Inverse → w.Echoes → Asks J m) → Answer w s msg q.name J m :=
      fun m hm hinv hecho => ⟨fun h => absurd hattempted h, fun _ => hm hinv hecho⟩
    have hboth : Resolves (Answer w s msg q.name J) K b s₁ s₃ :=
      (hresolves.unanswered fun k hk => hk ▸ hKq).trans (hlast.mono hanswer fun _ hk => hk)
    rw [if_neg Bool.false_ne_true, bind_apply_ok _ hattempts]
    cases b with
    | true => exact ⟨_, rfl, hboth.addQueryWait (-1)⟩
    | false => exact ⟨_, rfl, hboth.write (hanswer msg' fun _ _ => hasks)⟩

theorem resolveA_spec {J : Str → Prop} (hq : msg.question = q :: rest) (hKq : K q.name) (s : Resolver ρ)
    (hclosed : Attempted w s msg q.name → Closed J ∧ Closed K ∧ J (withoutLan q).name) :
    ∃ s', resolveA w msg s = .ok (⟨⟩, s') ∧ Resolves (Answer w s msg q.name J) K true s s' := by
  obtain ⟨b, s₁, hcall, hiff, hresolves⟩ := resolveCache_spec (w := w) hq s
  unfold resolveA
  rw [bind_apply_ok _ hcall]
  cases b with
  | true =>
    have hcached : ¬Attempted w s msg q.name := fun h => h.2.1 (hiff.mp rfl)
    refine ⟨s₁, rfl, hresolves.mono ?_ ?_⟩
    · exact fun m hm _ _ => ⟨fun _ => hm, fun h => absurd h hcached⟩
    · exact fun k hk => hk ▸ hKq
  | false =>
    have hmiss : ¬CacheAnswers w s q.name := fun h => Bool.false_ne_true (hiff.mpr h)
    have hfirst : Resolves (Answer w s msg q.name J) K false s { s₁ with queryWait := s₁.queryWait + 1 } :=
      (hresolves.unanswered fun k hk => hk ▸ hKq).addQueryWait 1
    have hwait : addQueryWait 1 s₁ = .ok (⟨⟩, { s₁ with queryWait := s₁.queryWait + 1 }) := rfl
    rw [if_neg Bool.false_ne_true, bind_apply_ok _ hwait]
    split_ifs with hrouter
    · obtain ⟨s', hrouted, hlast⟩ := resolveRouter_spec hq hKq s hrouter hmiss hclosed
        { s₁ with queryWait := s₁.queryWait + 1 }
      exact ⟨s', hrouted, hfirst.trans hlast⟩
    · refine ⟨_, rfl, hfirst.write ?_⟩
      exact fun _ _ => ⟨fun _ => rfl, fun h => absurd h.1 hrouter⟩

end Spec

/-! ### One answer -/

section Serve

variable {ρ : Type} {w : World ρ} {r : Msg ρ} {q : Question} {rest : List Question}

/-- The reply to an address query, before it is answered. -/
def addressReply (w : World ρ) (r : Msg ρ) : Msg ρ := { replyTo w r with rest := w.authoritative (w.setReply r.rest) }

theorem serveDNS_of_a (hr : r.question = q :: rest) (hq : q.qtype = typeA) (s : Resolver ρ) {s' : Resolver ρ}
    (h : resolveA w (addressReply w r) s = .ok (⟨⟩, s')) : serveDNS w r s = .ok (⟨⟩, { s' with closed := true }) := by
  have hserve : serveQuestion w r s = .ok (⟨⟩, s') := by
    unfold serveQuestion
    rw [hr]
    dsimp only
    rw [if_pos hq]
    exact h
  unfold serveDNS
  rw [bind_apply_ok _ hserve]
  rfl

theorem question_addressReply (hr : r.question = q :: rest) : (addressReply w r).question = [q] := by
  show r.question.take 1 = [q]
  rw [hr, List.take_succ_cons, List.take_zero]

/-- **`ServeDNS` writes one message**, whatever the query asks and however the attempts end. -/
theorem serveDNS_once (w : World ρ) (r : Msg ρ) (s : Resolver ρ) :
    ∃ s' m, serveDNS w r s = .ok (⟨⟩, s') ∧ s'.written = s.written ++ [m] := by
  rcases hr : r.question with _ | ⟨q, rest⟩
  · refine ⟨{ s with written := s.written ++ [replyTo w r], closed := true }, replyTo w r, ?_, rfl⟩
    unfold serveDNS serveQuestion
    rw [hr]
    rfl
  · by_cases hq : q.qtype = typeA
    · have hclosed : Closed fun _ => True := fun _ _ => trivial
      obtain ⟨s', hcall, hresolves⟩ := resolveA_spec (K := fun _ => True) (J := fun _ => True)
        (question_addressReply (w := w) hr) trivial s fun _ => ⟨hclosed, hclosed, trivial⟩
      obtain ⟨m, -, hwritten⟩ := hresolves.written
      exact ⟨_, m, serveDNS_of_a hr hq s hcall, hwritten⟩
    · refine ⟨{ s with written := s.written ++ [replyTo w r], closed := true }, replyTo w r, ?_, rfl⟩
      unfold serveDNS serveQuestion
      rw [hr]
      dsimp only
      rw [if_neg hq]
      rfl

end Serve

end ProxyZ.Dns
