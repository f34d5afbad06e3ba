import ProxyZ.Control.Reply
import ProxyZ.Go.Scan
import ProxyZ.Go.Text
import ProxyZ.Server.Handlers

/-!
# DNS answers in batches

`SendDNS` asks the control server for the addresses of some hosts at once. The handler of `/z-dns` merges what it finds
for all of them into one map from addresses to hosts, so an address has the last host that it was found for
(`lookup_lookupHosts`), and another host with the same address goes without.

The dictionary is complete exactly if no address is found for two of the hosts, where the reply arrives
(`completes_iff`).
-/

namespace ProxyZ.Dns

open Go ProxyZ.Control ProxyZ.Server

/-- The message of the reply: the map as a JSON object. -/
def hostsJson (res : Dict Str) : Json := .obj (res.pairs.map fun p => (p.1, .str p.2))

/-- What is written for the replies with hosts. -/
def writtenHosts (marshal : Fields → Str) (x : Exchange) : List Str :=
  x.replies.filterMap fun r =>
    match r.msg with
    | .hosts res => some (Control.reply marshal (hostsJson res) r.status)
    | _ => none

/-- One entry of the message. -/
def addEntry (reply : Dict Str) (entry : Str × Json) : Option (Dict Str) :=
  if entry.1 = str "0.0.0.0" then some reply
  else
    match entry.2 with
    | .str v => some (reply.insert entry.1 v)
    | _ => none

/-- `SendDNS`: a dictionary, which may be nil; `none` where it panics. -/
def sendDNS (post : Str → Fields → Except Err Str) (unmarshal : Str → Option Fields) (server : Str)
    (domains : List Str) : Option (Option (Dict Str)) :=
  let server := if hasPrefix server (str "https://") then server else str "https://" ++ server
  let server := if hasSuffix server (str ":55443") then server else server ++ str ":55443"
  match post (server ++ str "/z-dns") [(str "hosts", .str ((str ",").intercalate domains))] with
  | .error _ => some none
  | .ok buf =>
      match unmarshal buf with
      | none => some none
      | some d =>
          match d.lookup (str "status") with
          | none => some none
          | some (.str st) =>
              if st = str "ok" then
                match d.lookup (str "msg") with
                | some (.obj msg) => (msg.foldlM addEntry ∅).map some
                | _ => none
              else some none
          | some _ => none

/-- An IPv4 address that the lookup of the host finds. -/
def Found (w : World) (host : Str) (v4 : IP) : Prop := ∃ ips ip, w.lookupIP host = .ok ips ∧ ip ∈ ips ∧ to4 ip = some v4

/-- The server answers the request of the client for these hosts. -/
def Answers (gs : ListOps) (w : World) (c : Server.Control) (marshal : Fields → Str)
    (post : Str → Fields → Except Err Str) (hosts : List Str) : Prop :=
  ∀ url, ∃ r text, recv w r = (some [(str "hosts", .str ((str ",").intercalate hosts))], none) ∧
    writtenHosts marshal (serve gs w r .zDns c).2 = [text] ∧
    post url [(str "hosts", .str ((str ",").intercalate hosts))] = .ok text

/-- **The dictionary is complete**, whatever the decoder of the client makes of texts that do not encode the reply. -/
def Completes (gs : ListOps) (w : World) (c : Server.Control) (marshal : Fields → Str) (hosts : List Str) : Prop :=
  ∀ post unmarshal server, Answers gs w c marshal post hosts →
    Undoes marshal unmarshal (hostsJson (lookupHosts w hosts)) →
      ∀ h ∈ hosts, ∀ v4, Found w h v4 → v4 ≠ [0, 0, 0, 0] →
        ∃ reply, sendDNS post unmarshal server hosts = some (some reply) ∧ reply.lookup (dotted v4) = some h

/-- What is known of the encoder: some decoder undoes it, and there is a percent sign in a text exactly if there is one
in a string of it. -/
structure Encodes (marshal : Fields → Str) (res : Dict Str) : Prop where
  undoes : ∃ unmarshal, Undoes marshal unmarshal (hostsJson res)
  percent : (37 : UInt8) ∈ marshal (replyFields (hostsJson res) true) ↔
    ∃ k v, res.lookup k = some v ∧ ((37 : UInt8) ∈ k ∨ (37 : UInt8) ∈ v)

/-! ### What the map of the server holds -/

/-- The texts of the IPv4 addresses that are found for a host. -/
def addressTexts (w : World) (host : Str) : List Str :=
  match w.lookupIP host with
  | .ok ips => (ips.filter fun ip => (to4 ip).isSome).map ipString
  | .error _ => []

section Lookup

variable {w : World} {hosts : List Str} {h : Str} {v4 : IP}

theorem Found.length (hfound : Found w h v4) : v4.length = 4 := by
  obtain ⟨ips, ip, -, -, hip⟩ := hfound
  exact length_of_to4 hip

theorem ipString_of_to4 {ip : IP} (hip : to4 ip = some v4) : ipString ip = dotted v4 := by
  have hne : ip ≠ [] := by
    rintro rfl
    cases hip
  rw [ipString, if_neg hne, hip]

theorem mem_addressTexts_iff {k : Str} : k ∈ addressTexts w h ↔ ∃ v4, Found w h v4 ∧ k = dotted v4 := by
  unfold addressTexts Found
  rcases w.lookupIP h with e | ips
  · simp
  · simp only [List.mem_map, List.mem_filter]
    constructor
    · rintro ⟨ip, ⟨hip, hsome⟩, rfl⟩
      obtain ⟨v4, hv4⟩ := Option.isSome_iff_exists.mp hsome
      exact ⟨v4, ⟨ips, ip, rfl, hip, hv4⟩, ipString_of_to4 hv4⟩
    · rintro ⟨v4, ⟨_, ip, hok, hip, hv4⟩, rfl⟩
      cases hok
      exact ⟨ip, ⟨hip, by rw [hv4]; rfl⟩, ipString_of_to4 hv4⟩

/-- One more host. -/
theorem lookup_lookupHosts_concat (w : World) (hosts : List Str) (h k : Str) :
    (lookupHosts w (hosts ++ [h])).lookup k =
      if k ∈ addressTexts w h then some h else (lookupHosts w hosts).lookup k := by
  unfold lookupHosts addressTexts
  rw [List.foldl_append, List.foldl_cons, List.foldl_nil]
  rcases w.lookupIP h with e | ips
  · rw [if_neg List.not_mem_nil]
  · exact Dict.lookup_foldl_insert_const ipString _ _ h k

/-- An address has the last host that it was found for. -/
theorem lookup_lookupHosts (w : World) (hosts : List Str) (k : Str) :
    (lookupHosts w hosts).lookup k = lastHit (fun h => k ∈ addressTexts w h) hosts := by
  induction hosts using List.reverseRecOn with
  | nil => rfl
  | append_singleton hosts h ih =>
    rw [lastHit_concat, lookup_lookupHosts_concat, ih]
    simp only [decide_eq_true_eq]

theorem mem_dotted_addressTexts_iff (hv4 : v4.length = 4) : dotted v4 ∈ addressTexts w h ↔ Found w h v4 := by
  rw [mem_addressTexts_iff]
  constructor
  · rintro ⟨v4', hfound, heq⟩
    rwa [dotted_inj hv4 hfound.length heq]
  · exact fun hfound => ⟨v4, hfound, rfl⟩

/-- Where an address is found for one host only, that host has it. -/
theorem lookup_lookupHosts_of_single (hh : h ∈ hosts) (hfound : Found w h v4)
    (hsingle : ∀ h' ∈ hosts, Found w h' v4 → h = h') : (lookupHosts w hosts).lookup (dotted v4) = some h := by
  have hiff := fun h' => mem_dotted_addressTexts_iff (w := w) (h := h') hfound.length
  rw [lookup_lookupHosts]
  have hlast : ∃ y, lastHit (fun h => dotted v4 ∈ addressTexts w h) hosts = some y :=
    lastHit_of_mem hh (decide_eq_true ((hiff h).mpr hfound))
  obtain ⟨y, hy⟩ := hlast
  obtain ⟨hhit, rest, hsuffix, -⟩ := lastHit_suffix hy
  have hfound' : Found w y v4 := (hiff y).mp (of_decide_eq_true hhit)
  rw [hy, hsingle y (hsuffix.subset List.mem_cons_self) hfound']

/-- The handler replies with the map for the hosts of the request. -/
theorem writtenHosts_serve {gs : ListOps} {c : Server.Control} {marshal : Fields → Str} {r : Body}
    (hcomma : ∀ h ∈ hosts, (44 : UInt8) ∉ h) (hne : hosts ≠ [])
    (hbody : recv w r = (some [(str "hosts", .str ((str ",").intercalate hosts))], none)) :
    writtenHosts marshal (serve gs w r .zDns c).2 = [Control.reply marshal (hostsJson (lookupHosts w hosts)) true] := by
  have hsplit : split (str ",") ((str ",").intercalate hosts) = hosts := split_intercalate hne hcomma
  have hserve : serve gs w r .zDns c = (some ⟨⟩,
      { control := c
        replies := [⟨.hosts (lookupHosts w (split (str ",") ((str ",").intercalate hosts))), true, c⟩] }) := by
    unfold serve handle zDns
    rw [hbody]
    rfl
  rw [hserve, hsplit]
  rfl

section Exchange

variable {gs : ListOps} {c : Server.Control} {marshal : Fields → Str}

/-- What the client gets from the server that answers it. -/
theorem Answers.post_eq {post : Str → Fields → Except Err Str} (hanswers : Answers gs w c marshal post hosts)
    (hcomma : ∀ h ∈ hosts, (44 : UInt8) ∉ h) (hne : hosts ≠ []) (url : Str) :
    post url [(str "hosts", .str ((str ",").intercalate hosts))] =
      .ok (Control.reply marshal (hostsJson (lookupHosts w hosts)) true) := by
  obtain ⟨r, text, hrecv, htext, hurl⟩ := hanswers url
  have hsame := (writtenHosts_serve hcomma hne hrecv).symm.trans htext
  rw [hurl, ← (List.cons.inj hsame).1]

/-- The server answers the client with the reply for its hosts. -/
theorem answers_reply (hcomma : ∀ h ∈ hosts, (44 : UInt8) ∉ h) (hne : hosts ≠ [])
    (hbody : ∃ r, recv w r = (some [(str "hosts", .str ((str ",").intercalate hosts))], none)) :
    Answers gs w c marshal (fun _ _ => .ok (Control.reply marshal (hostsJson (lookupHosts w hosts)) true)) hosts := by
  obtain ⟨r, hrecv⟩ := hbody
  exact fun url => ⟨r, _, hrecv, writtenHosts_serve hcomma hne hrecv, rfl⟩

/-- No host that stands in the reply has a percent sign, so the reply has none. -/
theorem Encodes.not_percent (hencodes : Encodes marshal (lookupHosts w hosts))
    (hplain : ∀ h k, lastHit (fun h => k ∈ addressTexts w h) hosts = some h → (37 : UInt8) ∉ h) :
    (37 : UInt8) ∉ marshal (replyFields (hostsJson (lookupHosts w hosts)) true) := by
  rw [hencodes.percent]
  rintro ⟨k, host, hlookup, hmem⟩
  rw [lookup_lookupHosts] at hlookup
  rcases hmem with hmem | hmem
  · obtain ⟨v4, hfound, rfl⟩ := mem_addressTexts_iff.mp (of_decide_eq_true (lastHit_suffix hlookup).1)
    exact notMem_dotted (by decide) (by decide) hfound.length hmem
  · exact hplain host k hlookup hmem

end Exchange

end Lookup

/-! ### What the client makes of the reply -/

section Client

variable {res : Dict Str} {post : Str → Fields → Except Err Str} {unmarshal : Str → Option Fields} {text : Str}

theorem foldlM_addEntry (l : List (Str × Str)) (reply : Dict Str) :
    (l.map fun p => (p.1, Json.str p.2)).foldlM addEntry reply =
      some ((l.filter fun p => p.1 ≠ str "0.0.0.0").foldl (fun reply p => reply.insert p.1 p.2) reply) := by
  induction l generalizing reply with
  | nil => rfl
  | cons p l ih =>
    rw [List.map_cons, List.foldlM_cons]
    unfold addEntry
    by_cases hzero : p.1 = str "0.0.0.0"
    · rw [if_pos hzero, List.filter_cons_of_neg (by simpa using hzero)]
      exact ih reply
    · rw [if_neg hzero, List.filter_cons_of_pos (by simpa using hzero), List.foldl_cons]
      exact ih (reply.insert p.1 p.2)

/-- A reply that arrives: the dictionary is the map of the server without `0.0.0.0`. -/
theorem sendDNS_arrived {domains : List Str}
    (hpost : ∀ url, post url [(str "hosts", .str ((str ",").intercalate domains))] = .ok text)
    (harrives : unmarshal text = some (replyFields (hostsJson res) true)) (server : Str) :
    ∃ reply, sendDNS post unmarshal server domains = some (some reply) ∧
      ∀ k v, reply.lookup k = some v ↔ k ≠ str "0.0.0.0" ∧ res.lookup k = some v := by
  refine ⟨(res.pairs.filter fun p => p.1 ≠ str "0.0.0.0").foldl (fun reply p => reply.insert p.1 p.2) ∅, ?_,
    fun k v => ?_⟩
  · unfold sendDNS
    dsimp only
    rw [hpost]
    dsimp only
    rw [harrives]
    show ((res.pairs.map fun p => (p.1, Json.str p.2)).foldlM addEntry ∅).map some = _
    rw [foldlM_addEntry]
    rfl
  · have hnodup : ((res.pairs.filter fun p => p.1 ≠ str "0.0.0.0").map Prod.fst).Nodup :=
      res.nodup_pairs.sublist (List.filter_sublist.map Prod.fst)
    rw [Dict.lookup_foldl_insert_iff hnodup, List.mem_filter, Dict.mem_pairs_iff, decide_eq_true_eq, and_comm]

/-- A reply without a percent sign arrives. -/
theorem reply_arrives {marshal : Fields → Str} {msg : Json} (hundoes : Undoes marshal unmarshal msg)
    (hplain : (37 : UInt8) ∉ marshal (replyFields msg true)) :
    unmarshal (Control.reply marshal msg true) = some (replyFields msg true) := by
  show unmarshal (sprintf (marshal (replyFields msg true))) = _
  rw [(sprintf_eq_self_iff _).mpr hplain]
  exact hundoes true

/-- A reply with another status is dropped. -/
theorem sendDNS_failed {server : Str} {domains : List Str} {msg : Json}
    (hpost : ∀ url, post url [(str "hosts", .str ((str ",").intercalate domains))] = .ok text)
    (hfailed : recvMsg unmarshal text = some (msg, false)) : sendDNS post unmarshal server domains = some none := by
  unfold sendDNS
  dsimp only
  rw [hpost]
  dsimp only
  unfold recvMsg at hfailed
  rcases hdecoded : unmarshal text with _ | d
  · rfl
  · rw [hdecoded, Option.getD_some] at hfailed
    dsimp only at hfailed ⊢
    rcases hstatus : d.lookup (str "status") with _ | status
    · rfl
    · rw [hstatus] at hfailed
      cases status with
      | str st =>
        have hst : (st == str "ok") = false := (Prod.mk.inj (Option.some.inj hfailed)).2
        exact if_neg (by simpa using hst)
      | _ => cases hfailed

end Client

/-- A complete dictionary has one host for an address. -/
theorem Completes.eq_of_found {gs : ListOps} {w : World} {c : Server.Control} {marshal : Fields → Str}
    {hosts : List Str} (hcompletes : Completes gs w c marshal hosts)
    (hundoes : ∃ unmarshal, Undoes marshal unmarshal (hostsJson (lookupHosts w hosts)))
    (hanswers : ∃ post, Answers gs w c marshal post hosts) {h h' : Str} (hh : h ∈ hosts) (hh' : h' ∈ hosts) {v4 : IP}
    (hv4 : v4 ≠ [0, 0, 0, 0]) (hfound : Found w h v4) (hfound' : Found w h' v4) : h = h' := by
  obtain ⟨unmarshal, hundoes⟩ := hundoes
  obtain ⟨post, hanswers⟩ := hanswers
  obtain ⟨reply, hsend, hlookup⟩ := hcompletes post unmarshal [] hanswers hundoes h hh v4 hfound hv4
  obtain ⟨reply', hsend', hlookup'⟩ := hcompletes post unmarshal [] hanswers hundoes h' hh' v4 hfound' hv4
  cases hsend.symm.trans hsend'
  exact Option.some.inj (hlookup.symm.trans hlookup')

/-- **The dictionary is complete exactly if no IPv4 address but `0.0.0.0` is found for two of the hosts**, and no host
with a percent sign stands in a reply with an address. -/
theorem completes_iff {gs : ListOps} {w : World} {c : Server.Control} {marshal : Fields → Str} {hosts : List Str}
    (hcomma : ∀ h ∈ hosts, (44 : UInt8) ∉ h)
    (hbody : ∃ r, recv w r = (some [(str "hosts", .str ((str ",").intercalate hosts))], none))
    (hencodes : Encodes marshal (lookupHosts w hosts)) :
    Completes gs w c marshal hosts ↔
      (∀ h ∈ hosts, ∀ h' ∈ hosts, ∀ v4, v4 ≠ [0, 0, 0, 0] → Found w h v4 → Found w h' v4 → h = h') ∧
        ((∃ h ∈ hosts, ∃ v4, Found w h v4 ∧ v4 ≠ [0, 0, 0, 0]) →
          ∀ h k, lastHit (fun h => k ∈ addressTexts w h) hosts = some h → (37 : UInt8) ∉ h) := by
  constructor
  · intro hcompletes
    -- one exchange with the server, which answers whatever the decoder is
    have hanswers : ∀ h ∈ hosts, Answers gs w c marshal _ hosts :=
      fun h hh => answers_reply hcomma (List.ne_nil_of_mem hh) hbody
    refine ⟨fun h hh h' hh' v4 hv4 hfound hfound' => ?_, ?_⟩
    · exact hcompletes.eq_of_found hencodes.undoes ⟨_, hanswers h hh⟩ hh hh' hv4 hfound hfound'
    · rintro ⟨h, hh, v4, hfound, hv4⟩ host k hlast hmem
      have hpercent : (37 : UInt8) ∈ marshal (replyFields (hostsJson (lookupHosts w hosts)) true) :=
        hencodes.percent.mpr ⟨k, host, (lookup_lookupHosts w hosts k).trans hlast, Or.inr hmem⟩
      obtain ⟨unmarshal, hundoes, hfailed⟩ := exists_recvMsg_writeReply hencodes.undoes hpercent
      obtain ⟨reply, hsend, -⟩ := hcompletes _ unmarshal [] (hanswers h hh) hundoes h hh v4 hfound hv4
      cases hsend.symm.trans (sendDNS_failed (fun _ => rfl) hfailed)
  · rintro ⟨hsingle, hplain⟩ post unmarshal server hanswers hundoes h hh v4 hfound hv4
    have hpost := hanswers.post_eq hcomma (List.ne_nil_of_mem hh)
    have harrives := reply_arrives hundoes (hencodes.not_percent (hplain ⟨h, hh, v4, hfound, hv4⟩))
    obtain ⟨reply, hsend, hlookup⟩ := sendDNS_arrived hpost harrives server
    refine ⟨reply, hsend, (hlookup _ _).mpr ⟨fun hzero => hv4 ?_, ?_⟩⟩
    · exact dotted_inj hfound.length rfl (hzero.trans (by decide : str "0.0.0.0" = dotted [0, 0, 0, 0]))
    · exact lookup_lookupHosts_of_single hh hfound fun h' hh' hfound' => hsingle h hh h' hh' v4 hv4 hfound hfound'

/-! ### Two hosts -/

/-- The JSON text of an object of plain strings and of objects of plain strings. -/
def nestedJson (d : Fields) : Str :=
  let quote := fun s : Str => [34] ++ s ++ [34]
  let plain := fun v : Json =>
    match v with
    | .str s => quote s
    | _ => str "null"
  let object := fun (value : Json → Str) (d : Fields) =>
    str "\x7b" ++ (str ",").intercalate (d.map fun p => quote p.1 ++ str ":" ++ value p.2) ++ str "\x7d"
  object (fun v =>
    match v with
    | .obj fields => object plain fields
    | v => plain v) d

def twoHosts : List Str := [str "a.example", str "b.example"]

/-- The two hosts with these addresses. -/
def twoHostsWorld (a b : IP) : World :=
  { quietWorld with
    unmarshal := fun _ => .ok (some [(str "hosts", .str (str "a.example,b.example"))])
    lookupIP := fun host => .ok [if host = str "a.example" then a else b] }

theorem recv_twoHostsWorld (a b : IP) : ∃ r, recv (twoHostsWorld a b) r =
    (some [(str "hosts", .str ((str ",").intercalate twoHosts))], none) := by
  rw [show (str ",").intercalate twoHosts = str "a.example,b.example" by decide]
  exact ⟨⟨nestedJson [(str "hosts", .str (str "a.example,b.example"))], none⟩, rfl⟩

/-- Two texts for the two replies can be decoded. -/
theorem exists_undoes {marshal : Fields → Str} {msg : Json}
    (hne : marshal (replyFields msg false) ≠ marshal (replyFields msg true)) :
    ∃ unmarshal, Undoes marshal unmarshal msg := by
  refine ⟨fun text => some (replyFields msg (text = marshal (replyFields msg true))), fun status => ?_⟩
  cases status with
  | true => simp
  | false => simp [hne]

theorem found_twoHosts_iff {a b v4 : IP} (ha : a.length = 4) (hb : b.length = 4) {h : Str} :
    Found (twoHostsWorld a b) h v4 ↔ v4 = if h = str "a.example" then a else b := by
  have hto4 : to4 (if h = str "a.example" then a else b) = some (if h = str "a.example" then a else b) := by
    unfold to4
    split_ifs <;> rfl
  constructor
  · rintro ⟨ips, ip, hok, hip, hv4⟩
    cases hok
    rw [List.mem_singleton.mp hip, hto4] at hv4
    exact (Option.some.inj hv4).symm
  · rintro rfl
    exact ⟨_, _, rfl, List.mem_singleton_self _, hto4⟩

theorem completes_iff_two :
    Completes sampleOps (twoHostsWorld [192, 0, 2, 7] [192, 0, 2, 8]) {} nestedJson twoHosts := by
  have hpairs : (lookupHosts (twoHostsWorld [192, 0, 2, 7] [192, 0, 2, 8]) twoHosts).pairs =
      [(str "192.0.2.8", str "b.example"), (str "192.0.2.7", str "a.example")] := by decide
  refine (completes_iff (by decide) (recv_twoHostsWorld _ _) ⟨exists_undoes (by decide), ?_⟩).mpr ⟨?_, ?_⟩
  · refine iff_of_false (by decide) ?_
    rintro ⟨k, v, hlookup, hmem⟩
    have hentry := Dict.mem_pairs_iff.mpr hlookup
    rw [hpairs, List.mem_cons, List.mem_singleton] at hentry
    rcases hentry with hentry | hentry
    · cases hentry
      exact absurd hmem (by decide)
    · cases hentry
      exact absurd hmem (by decide)
  · intro h hh h' hh' v4 _ hfound hfound'
    rw [found_twoHosts_iff rfl rfl] at hfound hfound'
    have hsame := hfound.symm.trans hfound'
    simp only [twoHosts, List.mem_cons, List.not_mem_nil, or_false] at hh hh'
    rcases hh with rfl | rfl <;> rcases hh' with rfl | rfl
    · rfl
    · exact absurd hsame (by decide)
    · exact absurd hsame (by decide)
    · rfl
  · intro _ h k hlast
    obtain ⟨-, rest, hsuffix, -⟩ := lastHit_suffix hlast
    have hplain : ∀ h ∈ twoHosts, (37 : UInt8) ∉ h := by decide
    exact hplain h (hsuffix.subset List.mem_cons_self)

/-- Both hosts have the same address. -/
def sharedWorld : World := twoHostsWorld [192, 0, 2, 7] [192, 0, 2, 7]

/-- The first one goes without. -/
theorem not_completes_shared :
    (lookupHosts sharedWorld twoHosts).pairs = [(str "192.0.2.7", str "b.example")] ∧
      ¬Completes sampleOps sharedWorld {} nestedJson twoHosts := by
  have hpairs : (lookupHosts sharedWorld twoHosts).pairs = [(str "192.0.2.7", str "b.example")] := by decide
  refine ⟨hpairs, fun hcompletes => ?_⟩
  have hundoes : ∃ unmarshal, Undoes nestedJson unmarshal (hostsJson (lookupHosts sharedWorld twoHosts)) :=
    exists_undoes (by decide)
  have hanswers : Answers sampleOps sharedWorld {} nestedJson _ twoHosts :=
    answers_reply (by decide) (by decide) (recv_twoHostsWorld _ _)
  have hfound : ∀ h ∈ twoHosts, Found sharedWorld h [192, 0, 2, 7] := by
    intro h hh
    exact (found_twoHosts_iff rfl rfl).mpr (ite_self _).symm
  have hsame : str "a.example" = str "b.example" :=
    hcompletes.eq_of_found hundoes ⟨_, hanswers⟩ (by decide) (by decide) (by decide) (hfound _ (by decide))
      (hfound _ (by decide))
  exact absurd hsame (by decide)

end ProxyZ.Dns
