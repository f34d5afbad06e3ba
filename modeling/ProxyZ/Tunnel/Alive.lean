import ProxyZ.Tunnel.Accept

/-!
# The clients of a tunnel

Each of the three servers keeps the addresses of its clients in a map: `Record` adds one and `DelRecord` takes it
out again. `DelRecord` has the guard of `Record`, so it deletes an address only where there is none.

The list is exact for a history if and only if no address in it has been deleted and not recorded again
(`exact_iff`): every address that was ever recorded stays.
-/

namespace ProxyZ.Tunnel

open Go

/-- The map of a server, which is nil at first. -/
abbrev Ips := Option (Dict Bool)

/-- A connection, as far as `DelRecord` looks at it. -/
structure NetConn where
  remoteAddr : Str

/-- An order in which Go ranges over a map. -/
structure RangeOrder (α : Type) where
  range : List α → List α
  perm : ∀ l, (range l).Perm l

def recordIP (ip : Str) (ips : Ips) : Ips :=
  let ips := ips.getD ∅
  if ips.has ip then some ips else some (ips.insert ip true)

def delRecordIP (ip : Str) (ips : Ips) : Ips :=
  let ips := ips.getD ∅
  -- the guard is the one of `Record`
  if ips.has ip then some ips else some (ips.erase ip)

def getAliveIPS (order : RangeOrder (Str × Bool)) (ips : Ips) : List Str :=
  (order.range (ips.getD ∅).pairs).map Prod.fst

namespace TlsServer

def record (con : Str) : Ips → Ips := recordIP con

def delRecord (con : NetConn) : Ips → Ips := delRecordIP con.remoteAddr

end TlsServer

namespace KcpServer

def record (con : Str) : Ips → Ips := recordIP con

def delRecord (con : NetConn) : Ips → Ips := delRecordIP con.remoteAddr

end KcpServer

namespace QuicServer

def record (con : Str) : Ips → Ips := recordIP con

/-- The QUIC server is given the address. -/
def delRecord (con : Str) : Ips → Ips := delRecordIP con

end QuicServer

/-- A call of `Record`, or of `DelRecord` with a connection of the address. -/
inductive Event
  | record (addr : Str)
  | delRecord (addr : Str)
  deriving DecidableEq, Repr

def Event.addr : Event → Str
  | .record addr => addr
  | .delRecord addr => addr

def Protocol.happens : Protocol → Ips → Event → Ips
  | .tls, ips, .record addr => TlsServer.record addr ips
  | .tls, ips, .delRecord addr => TlsServer.delRecord ⟨addr⟩ ips
  | .kcp, ips, .record addr => KcpServer.record addr ips
  | .kcp, ips, .delRecord addr => KcpServer.delRecord ⟨addr⟩ ips
  | .quic, ips, .record addr => QuicServer.record addr ips
  | .quic, ips, .delRecord addr => QuicServer.delRecord addr ips

/-- The map of a server after a history, oldest event first. -/
def Protocol.after (p : Protocol) (events : List Event) : Ips := events.foldl p.happens none

/-- The last event of the address is a `Record`. -/
def LastRecorded (events : List Event) (addr : Str) : Prop :=
  (events.filter fun e => e.addr = addr).getLast? = some (.record addr)

/-- **The list is exact**: it holds, once each, the addresses whose last event was a `Record`. -/
def Exact (p : Protocol) (events : List Event) : Prop :=
  ∀ order, (getAliveIPS order (p.after events)).Nodup ∧
    ∀ addr, addr ∈ getAliveIPS order (p.after events) ↔ LastRecorded events addr

/-! ### What the map holds -/

section Holds

variable {ips : Ips} {ip addr : Str} {order : RangeOrder (Str × Bool)}

/-- The map has the address. -/
def Holds (ips : Ips) (addr : Str) : Prop := addr ∈ ips.getD ∅

theorem holds_recordIP : Holds (recordIP ip ips) addr ↔ addr = ip ∨ Holds ips addr := by
  unfold recordIP Holds
  dsimp only
  split_ifs with hhas
  · constructor
    · exact Or.inr
    · rintro (rfl | h)
      · exact Dict.has_iff_mem.mp hhas
      · exact h
  · exact AList.mem_insert _

/-- `DelRecord` deletes nothing. -/
theorem holds_delRecordIP : Holds (delRecordIP ip ips) addr ↔ Holds ips addr := by
  unfold delRecordIP Holds
  dsimp only
  split_ifs with hhas
  · exact Iff.rfl
  · show addr ∈ (ips.getD ∅).erase ip ↔ _
    rw [AList.mem_erase]
    constructor
    · exact And.right
    · intro h
      refine ⟨?_, h⟩
      rintro rfl
      exact hhas (Dict.has_iff_mem.mpr h)

theorem holds_happens (p : Protocol) (e : Event) :
    Holds (p.happens ips e) addr ↔ e = .record addr ∨ Holds ips addr := by
  cases e with
  | record a =>
    have hstep : p.happens ips (.record a) = recordIP a ips := by cases p <;> rfl
    rw [hstep, holds_recordIP, Event.record.injEq, eq_comm]
  | delRecord a =>
    have hstep : p.happens ips (.delRecord a) = delRecordIP a ips := by cases p <;> rfl
    rw [hstep, holds_delRecordIP]
    exact ⟨Or.inr, fun h => h.resolve_left nofun⟩

/-- **What has been recorded stays.** -/
theorem holds_after (p : Protocol) (events : List Event) :
    Holds (p.after events) addr ↔ .record addr ∈ events := by
  have hrun : ∀ ips, Holds (events.foldl p.happens ips) addr ↔ .record addr ∈ events ∨ Holds ips addr := by
    induction events with
    | nil => exact fun ips => ⟨Or.inr, fun h => h.resolve_left List.not_mem_nil⟩
    | cons e rest ih =>
      intro ips
      rw [List.foldl_cons, ih, holds_happens, List.mem_cons, eq_comm, or_left_comm, or_assoc]
  exact (hrun none).trans ⟨fun h => h.resolve_right nofun, Or.inl⟩

theorem mem_getAliveIPS : addr ∈ getAliveIPS order ips ↔ Holds ips addr := by
  unfold getAliveIPS Holds Dict.pairs
  rw [((order.perm _).map Prod.fst).mem_iff, List.map_map]
  exact Iff.rfl

theorem nodup_getAliveIPS : (getAliveIPS order ips).Nodup :=
  ((order.perm _).map Prod.fst).nodup_iff.mpr (Dict.nodup_pairs _)

end Holds

theorem LastRecorded.recorded {events : List Event} {addr : Str} (h : LastRecorded events addr) :
    .record addr ∈ events :=
  List.mem_of_mem_filter (List.mem_of_getLast? h)

/-- **The list is exact if and only if each address that was recorded has a `Record` as its last event.** -/
theorem exact_iff (p : Protocol) (events : List Event) :
    Exact p events ↔ ∀ addr, .record addr ∈ events → LastRecorded events addr := by
  constructor
  · intro h addr hrecord
    obtain ⟨-, hmem⟩ := h ⟨id, fun _ => .refl _⟩
    exact (hmem addr).mp (mem_getAliveIPS.mpr ((holds_after p events).mpr hrecord))
  · intro h order
    refine ⟨nodup_getAliveIPS, fun addr => ?_⟩
    rw [mem_getAliveIPS, holds_after]
    exact ⟨h addr, LastRecorded.recorded⟩

/-- A client comes and goes. -/
def comesAndGoes : List Event := [.record (str "10.0.0.1:50000"), .delRecord (str "10.0.0.1:50000")]

theorem not_exact (p : Protocol) : ¬Exact p comesAndGoes := by
  intro h
  obtain ⟨-, hmem⟩ := h ⟨id, fun _ => .refl _⟩
  have hheld : Holds (p.after comesAndGoes) (str "10.0.0.1:50000") := (holds_after p _).mpr List.mem_cons_self
  have hlast : LastRecorded comesAndGoes (str "10.0.0.1:50000") := (hmem _).mp (mem_getAliveIPS.mpr hheld)
  exact absurd hlast (by unfold LastRecorded; decide)

/-- Each of the three servers still lists the client. -/
theorem not_exact_comesAndGoes :
    ¬Exact .tls comesAndGoes ∧ ¬Exact .kcp comesAndGoes ∧ ¬Exact .quic comesAndGoes :=
  ⟨not_exact .tls, not_exact .kcp, not_exact .quic⟩

/-! ### The accept loops -/

/-- The loops record as the servers do. -/
theorem ips_record (con : Str) (s : AcceptState) : some (record con s).ips = recordIP con (some s.ips) := by
  unfold record recordIP
  dsimp only [Option.getD_some]
  split_ifs <;> rfl

end ProxyZ.Tunnel
