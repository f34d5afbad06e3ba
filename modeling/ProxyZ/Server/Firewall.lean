import ProxyZ.Go.Fields
import ProxyZ.Server.Handlers

/-!
# The ports of the firewall

`GetUFW` lists the ports that are open, without the server's own, and `CloseALLPortUFW` closes what it lists. But it
looks at an entry only if it has a protocol, and not if there is a `22` anywhere in it. So it closes every port
listed but the protected ones exactly if each of them is listed with a protocol and has no `22` among its digits
(`closeALLPortUFW_iff`).

`/z-ufw` closes the ports of its field `port`: a text with one number, or with a list of them. It looks for line
breaks first and for commas only where there are none, and it takes a number of the JSON document for a float, which
it leaves alone. So it closes the ports given exactly if each of them has a place where it is read
(`zUfw_closes_iff`).
-/

namespace ProxyZ.Server

open Go Procedure

/-- The ports that `ClosePortUFW` does not close. -/
def guarded : List Int := [22, 55443, 60053, 60001]

/-! ### Closing all ports -/

/-- The entries that `GetUFW` leaves out. -/
def leftOut : List Str :=
  [str "22", str "55443", str "60053", str "22/tcp", str "55443/tcp", str "60053/tcp", str "22/udp", str "55443/udp",
    str "60053/udp", str "60001/udp"]

/-- `GetUFW` on the lines of `ufw status` with `ALLOW`. `splitSpace` stands for the method of `gs.Str`. -/
def getUFW (splitSpace : Str → List Str) (status : List Str) : Str :=
  trim (status.foldl (fun port line =>
    match splitSpace line with
    | [] => port
    | p :: _ => if leftOut.contains (trim p) then port else port ++ (trim p ++ str "\n")) [])

/-- What `CloseALLPortUFW` does with an entry. -/
def closeEntry (i : Str) : Handler PUnit :=
  if contains i (str "/") then
    if contains i (str "22") then pure () else closePortText ((split (str "/") i).headD [])
  else pure ()

def closeALLPortUFW (splitSpace : Str → List Str) (status : List Str) : Handler PUnit :=
  (split (str "\n") (getUFW splitSpace status)).forM closeEntry

/-- `SplitSpace` gives the word a line begins with. -/
def SplitsSpace (splitSpace : Str → List Str) : Prop :=
  ∀ word rest, IsWord word → ∃ more, splitSpace (word ++ 32 :: rest) = word :: more

inductive Proto
  | any
  | tcp
  | udp
  deriving DecidableEq

def Proto.text : Proto → Str
  | .any => []
  | .tcp => str "/tcp"
  | .udp => str "/udp"

/-- A line of the status with `ALLOW`: a port, its protocol, and the rest behind a blank. -/
structure Allow where
  port : Nat
  proto : Proto
  rest : Str

def Allow.spec (a : Allow) : Str := itoa a.port ++ a.proto.text

def Allow.line (a : Allow) : Str := a.spec ++ 32 :: a.rest

/-- `CloseALLPortUFW` deletes the ports of the listing that are not protected, and no others. -/
def ClosesListed (splitSpace : Str → List Str) (listing : List Allow) : Prop :=
  ∀ x : Exchange, ∃ deleted,
    exec (closeALLPortUFW splitSpace (listing.map Allow.line)) x =
      (some ⟨⟩, { x with control := { x.control with ports := x.control.ports ++ deleted } }) ∧
    ∀ p, p ∈ deleted ↔ p ∉ guarded ∧ ∃ a ∈ listing, (a.port : Int) = p

/-! ### The ports that a procedure closes -/

theorem exec_closePortUFW (p : Int) (x : Exchange) :
    exec (closePortUFW p) x =
      (some ⟨⟩, { x with control := { x.control with ports := x.control.ports ++ [p].filter (· ∉ guarded) } }) := by
  by_cases hp : p ∈ guarded
  · have hnone : [p].filter (· ∉ guarded) = [] := by
      rw [List.filter_singleton, decide_eq_false (not_not.mpr hp)]
      rfl
    rw [hnone, List.append_nil, show closePortUFW p = pure ⟨⟩ from if_pos hp]
    rfl
  · have hsome : [p].filter (· ∉ guarded) = [p] := by
      rw [List.filter_singleton, decide_eq_true hp]
      rfl
    rw [hsome, show closePortUFW p = _ from if_neg hp]
    rfl

/-- Closing the ports of a list deletes those that are not protected. -/
theorem exec_forM_closePortUFW (ps : List Int) (x : Exchange) :
    exec (ps.forM closePortUFW) x =
      (some ⟨⟩, { x with control := { x.control with ports := x.control.ports ++ ps.filter (· ∉ guarded) } }) := by
  induction ps generalizing x with
  | nil =>
    rw [List.filter_nil, List.append_nil]
    rfl
  | cons p ps ih =>
    show exec (closePortUFW p >>= fun _ => ps.forM closePortUFW) x = _
    rw [exec_bind, exec_closePortUFW]
    dsimp only
    rw [ih]
    dsimp only
    rw [List.append_assoc, ← List.filter_append, List.singleton_append]

theorem closePortText_eq (s : Str) : closePortText s = (atoi? s).toList.forM closePortUFW := by
  unfold closePortText atoi?
  split_ifs
  · exact (bind_pure _).symm
  · rfl

/-- A loop that closes a port for some of its texts. -/
theorem forM_closePort {ι : Type} {f : ι → Handler PUnit} {port : ι → Option Int}
    (hf : ∀ i, f i = (port i).toList.forM closePortUFW) (l : List ι) :
    l.forM f = (l.filterMap port).forM closePortUFW := by
  induction l with
  | nil => rfl
  | cons i l ih =>
    show (f i >>= fun _ => l.forM f) = _
    rw [ih, hf i]
    rcases hport : port i with _ | p
    · rw [List.filterMap_cons_none hport]
      exact pure_bind _ _
    · rw [List.filterMap_cons_some hport]
      show (closePortUFW p >>= fun _ => pure PUnit.unit) >>= (fun _ => (l.filterMap port).forM closePortUFW) =
        closePortUFW p >>= fun _ => (l.filterMap port).forM closePortUFW
      rw [bind_assoc]
      simp only [pure_bind]

/-- The port that `CloseALLPortUFW` finds in an entry. -/
def entryPort (i : Str) : Option Int :=
  if contains i (str "/") then
    if contains i (str "22") then none else atoi? ((split (str "/") i).headD [])
  else none

theorem closeEntry_eq (i : Str) : closeEntry i = (entryPort i).toList.forM closePortUFW := by
  unfold closeEntry entryPort
  split_ifs
  · rfl
  · exact closePortText_eq _
  · rfl

/-! ### What is listed -/

section Listing

variable {splitSpace : Str → List Str}

theorem Allow.spec_ne_nil (a : Allow) : a.spec ≠ [] := List.append_ne_nil_of_left_ne_nil (itoa_ne_nil a.port) _

theorem isSpace_proto {p : Proto} : ∀ c ∈ p.text, isSpace c = false ∧ c ≠ 10 := by
  have hall : (p.text.all fun c => !isSpace c && c ≠ 10) = true := by
    cases p <;> decide
  intro c hc
  have hboth := List.all_eq_true.mp hall c hc
  rw [Bool.and_eq_true, Bool.not_eq_true', decide_eq_true_eq] at hboth
  exact hboth

theorem Allow.not_isSpace {a : Allow} {c : UInt8} (hc : c ∈ a.spec) : isSpace c = false := by
  rcases List.mem_append.mp hc with hdigit | hproto
  · exact not_isSpace_of_isDigit (isDigit_of_mem_itoa hdigit)
  · exact (isSpace_proto c hproto).1

theorem Allow.isWord (a : Allow) : IsWord a.spec := by
  have hproto : ∀ c ∈ a.proto.text, c < 128 := by
    cases a.proto <;> decide +kernel
  refine isWord_of_ascii a.spec_ne_nil fun c hc => ⟨?_, a.not_isSpace hc⟩
  rcases List.mem_append.mp hc with hdigit | hc
  · exact (ascii_of_isDigit (isDigit_of_mem_itoa hdigit)).1
  · exact hproto c hc

theorem Allow.trim_spec (a : Allow) : trim a.spec = a.spec := by
  have hword := trim_word [] [] a.spec_ne_nil nofun nofun fun c hc => a.not_isSpace hc
  rwa [List.nil_append, List.append_nil] at hword

/-- The entries that `GetUFW` keeps. -/
def kept (listing : List Allow) : List Str := (listing.filter fun a => !leftOut.contains a.spec).map Allow.spec

theorem getUFW_fold (hsplit : SplitsSpace splitSpace) (listing : List Allow) (port : Str) :
    (listing.map Allow.line).foldl (fun port line =>
      match splitSpace line with
      | [] => port
      | p :: _ => if leftOut.contains (trim p) then port else port ++ (trim p ++ str "\n")) port =
      port ++ (kept listing).flatMap (· ++ [10]) := by
  induction listing generalizing port with
  | nil => exact (List.append_nil port).symm
  | cons a listing ih =>
    obtain ⟨more, hmore⟩ := hsplit a.spec a.rest a.isWord
    rw [List.map_cons, List.foldl_cons, ih, Allow.line, hmore]
    dsimp only
    rw [a.trim_spec]
    rcases hout : leftOut.contains a.spec with _ | _
    · have hkept : kept (a :: listing) = a.spec :: kept listing := by
        unfold kept
        rw [List.filter_cons_of_pos (by rw [hout]; rfl), List.map_cons]
      rw [if_neg Bool.false_ne_true, hkept, List.append_assoc, List.flatMap_cons]
      rfl
    · have hkept : kept (a :: listing) = kept listing := by
        unfold kept
        rw [List.filter_cons_of_neg (by rw [hout]; exact Bool.false_ne_true)]
      rw [if_pos rfl, hkept]

/-- What `CloseALLPortUFW` goes through: the entries kept, or one empty entry. -/
theorem split_getUFW (hsplit : SplitsSpace splitSpace) (listing : List Allow) :
    split (str "\n") (getUFW splitSpace (listing.map Allow.line)) =
      if kept listing = [] then [[]] else kept listing := by
  unfold getUFW
  rw [getUFW_fold hsplit, List.nil_append]
  have hspec : ∀ s ∈ kept listing, s ≠ [] ∧ ∀ c ∈ s, isSpace c = false := by
    intro s hs
    obtain ⟨a, -, rfl⟩ := List.mem_map.mp hs
    exact ⟨a.spec_ne_nil, fun c hc => a.not_isSpace hc⟩
  rcases hkept : kept listing with _ | ⟨s, rest⟩
  · rfl
  rw [hkept] at hspec
  have hlines : ∀ a ∈ s :: rest, a ≠ [] ∧ (∀ d ∈ a.head?, isSpace d = false) ∧ ∀ d ∈ a.getLast?, isSpace d = false :=
    fun a ha => ⟨(hspec a ha).1, fun d hd => (hspec a ha).2 d (List.mem_of_mem_head? hd),
      fun d hd => (hspec a ha).2 d (List.mem_of_mem_getLast? hd)⟩
  rw [trim_terminated rfl hlines, if_neg (List.cons_ne_nil s rest)]
  refine split_intercalate (List.cons_ne_nil s rest) fun a ha hmem => ?_
  exact absurd ((hspec a ha).2 10 hmem) (by decide)

/-- The port found in an entry of the listing. -/
theorem entryPort_spec (a : Allow) :
    entryPort a.spec =
      if a.proto ≠ .any ∧ contains (itoa a.port) (str "22") = false ∧ a.port < 2 ^ 63 then some (a.port : Int) else none := by
  have hslash : (47 : UInt8) ∉ itoa a.port := notMem_itoa (by decide)
  have hpair : contains a.spec (str "22") = contains (itoa a.port) (str "22") := by
    have hno : (50 : UInt8) ∉ a.proto.text := by
      cases a.proto <;> decide
    rw [Bool.eq_iff_iff, contains_iff, contains_iff]
    exact infix_append_iff_of_notMem (w := [50]) hno
  have hfirst : ∀ rest, split (str "/") (itoa a.port ++ 47 :: rest) = itoa a.port :: split [47] rest :=
    fun rest => split_singleton rest hslash
  unfold entryPort
  rw [hpair]
  rcases hproto : a.proto with _ | _ | _
  · have hnone : contains a.spec (str "/") = false := by
      rw [Bool.eq_false_iff]
      intro h
      rw [Allow.spec, hproto] at h
      rcases List.mem_append.mp (contains_singleton.mp h) with h | h
      · exact hslash h
      · cases h
    rw [if_neg (by rw [hnone]; exact Bool.false_ne_true), if_neg fun h => h.1 rfl]
  all_goals
    have hsome : contains a.spec (str "/") = true := by
      refine contains_singleton.mpr (List.mem_append_right _ ?_)
      rw [hproto]
      decide
    have hport : (split (str "/") a.spec).headD [] = itoa a.port := by
      rw [Allow.spec, hproto]
      exact congrArg (List.headD · []) (hfirst _)
    rw [if_pos hsome, hport, atoi?_itoa]
    cases contains (itoa a.port) (str "22") <;> simp

/-- The entries left out are of protected ports, or have no protocol. -/
theorem guarded_of_leftOut : ∀ s ∈ leftOut, (entryPort s).all (· ∈ guarded) = true := by decide

theorem exec_closeALLPortUFW (hsplit : SplitsSpace splitSpace) (listing : List Allow) (x : Exchange) :
    ∃ deleted,
      exec (closeALLPortUFW splitSpace (listing.map Allow.line)) x =
        (some ⟨⟩, { x with control := { x.control with ports := x.control.ports ++ deleted } }) ∧
      ∀ p, p ∈ deleted ↔ p ∉ guarded ∧ ∃ a ∈ listing, entryPort a.spec = some p := by
  have hcalls := forM_closePort closeEntry_eq (split (str "\n") (getUFW splitSpace (listing.map Allow.line)))
  refine ⟨_, (congrArg (exec · x) hcalls).trans (exec_forM_closePortUFW _ x), fun p => ?_⟩
  rw [split_getUFW hsplit, List.mem_filter, decide_eq_true_eq, and_comm]
  refine and_congr_right fun hp => ?_
  have hmem : p ∈ (if kept listing = [] then [[]] else kept listing).filterMap entryPort ↔
      ∃ s ∈ kept listing, entryPort s = some p := by
    rw [List.mem_filterMap]
    split_ifs with hnone
    · rw [hnone]
      refine iff_of_false ?_ fun ⟨_, hs, _⟩ => List.not_mem_nil hs
      rintro ⟨s, hs, hport⟩
      rw [List.mem_singleton.mp hs] at hport
      cases hport
    · rfl
  rw [hmem]
  constructor
  · rintro ⟨s, hs, hport⟩
    obtain ⟨a, ha, rfl⟩ := List.mem_map.mp hs
    exact ⟨a, List.mem_of_mem_filter ha, hport⟩
  · rintro ⟨a, ha, hport⟩
    have hkeeps : (!leftOut.contains a.spec) = true := by
      rw [Bool.not_eq_true', Bool.eq_false_iff, ne_eq, List.contains_iff_mem]
      intro hout
      have hall := guarded_of_leftOut a.spec hout
      rw [hport] at hall
      exact hp (of_decide_eq_true hall)
    exact ⟨a.spec, List.mem_map.mpr ⟨a, List.mem_filter.mpr ⟨ha, hkeeps⟩, rfl⟩, hport⟩

/-- **All ports listed but the protected ones are closed, and no others, exactly if each of them is listed with a
protocol, has no `22` among its digits and fits into an int.** -/
theorem closeALLPortUFW_iff (hsplit : SplitsSpace splitSpace) (listing : List Allow) :
    ClosesListed splitSpace listing ↔
      ∀ a ∈ listing, (a.port : Int) ∉ guarded →
        (∃ b ∈ listing, b.port = a.port ∧ b.proto ≠ .any) ∧ contains (itoa a.port) (str "22") = false ∧
          a.port < 2 ^ 63 := by
  have hread : ∀ p, (∃ a ∈ listing, entryPort a.spec = some p) ↔ ∃ b ∈ listing, (b.port : Int) = p ∧
      b.proto ≠ .any ∧ contains (itoa b.port) (str "22") = false ∧ b.port < 2 ^ 63 := by
    intro p
    refine exists_congr fun b => and_congr_right fun _ => ?_
    rw [entryPort_spec]
    split_ifs with hb
    · rw [Option.some.injEq, and_iff_left hb]
    · exact iff_of_false nofun fun h => hb h.2
  constructor
  · intro hcloses a ha hguarded
    obtain ⟨deleted, hexec, hdeleted⟩ := hcloses { control := {} }
    obtain ⟨deleted', hexec', hdeleted'⟩ := exec_closeALLPortUFW hsplit listing { control := {} }
    rw [hexec] at hexec'
    have hsame : deleted = deleted' := congrArg (·.2.control.ports) hexec'
    have hmem : (a.port : Int) ∈ deleted' := hsame ▸ (hdeleted _).mpr ⟨hguarded, a, ha, rfl⟩
    obtain ⟨b, hb, hport, hproto, hpair, hsmall⟩ := (hread _).mp ((hdeleted' _).mp hmem).2
    have heq : b.port = a.port := Int.ofNat_inj.mp hport
    rw [heq] at hpair hsmall
    exact ⟨⟨b, hb, heq, hproto⟩, hpair, hsmall⟩
  · intro hall x
    obtain ⟨deleted, hexec, hdeleted⟩ := exec_closeALLPortUFW hsplit listing x
    refine ⟨deleted, hexec, fun p => (hdeleted p).trans (and_congr_right fun hguarded => ?_)⟩
    rw [hread]
    constructor
    · rintro ⟨b, hb, hport, -⟩
      exact ⟨b, hb, hport⟩
    · rintro ⟨a, ha, rfl⟩
      obtain ⟨⟨b, hb, hport, hproto⟩, hpair, hsmall⟩ := hall a ha hguarded
      exact ⟨b, hb, congrArg _ hport, hproto, hport ▸ hpair, hport ▸ hsmall⟩

end Listing

/-- `strings.Fields` is such a method. -/
theorem splitsSpace_fields : SplitsSpace fields := fun _ rest hword => ⟨fields rest, fields_word hword (by decide)⟩

/-- The fields of a line, split at single blanks. -/
def splitBlanks (line : Str) : List Str := split (str " ") line

theorem splitsSpace_splitBlanks : SplitsSpace splitBlanks := by
  intro word rest hword
  exact ⟨_, split_singleton rest (hword.notMem (by decide))⟩

/-- A port with a protocol, and a protected one. -/
def tcpListing : List Allow := [⟨40001, .tcp, str "ALLOW Anywhere"⟩, ⟨55443, .any, str "ALLOW Anywhere"⟩]

theorem closeALLPortUFW_iff_tcpListing : ClosesListed splitBlanks tcpListing := by
  refine (closeALLPortUFW_iff splitsSpace_splitBlanks tcpListing).mpr fun a ha hguarded => ?_
  rcases List.mem_cons.mp ha with rfl | ha
  · exact ⟨⟨_, ha, rfl, by decide⟩, by decide +kernel, by decide⟩
  · rw [List.mem_singleton.mp ha] at hguarded
    exact absurd (by decide) hguarded

/-- A port as `OpenPortUFW` opens it stays open. -/
theorem not_closesListed_plain : ¬ClosesListed splitBlanks [⟨40001, .any, str "ALLOW Anywhere"⟩] := by
  intro hcloses
  obtain ⟨deleted, hexec, hdeleted⟩ := hcloses { control := {} }
  have hnone : (exec (closeALLPortUFW splitBlanks [Allow.line ⟨40001, .any, str "ALLOW Anywhere"⟩])
      { control := {} }).2.control.ports = [] := by
    decide +kernel
  have hports : deleted = [] := by
    rw [← hnone]
    exact (congrArg (·.2.control.ports) hexec).symm
  have hmem := (hdeleted 40001).mpr ⟨by decide, _, List.mem_cons_self, rfl⟩
  rw [hports] at hmem
  cases hmem

/-! ### Closing the ports given -/

/-- The ports that `/z-ufw` calls `ClosePortUFW` for where its field `port` is a list. -/
def listedPorts (t : Str) : List Int :=
  if contains t (str "\n") then (split (str "\n") t).filterMap fun i => atoi? (trim i)
  else if contains t (str ",") then (split (str ",") t).filterMap fun i => atoi? (trim i)
  else []

/-- The ports that it calls `ClosePortUFW` for. -/
def calledPorts : Option Json → List Int
  | some (.str port) => listedPorts port ++ (atoi? port).toList
  | _ => []

/-- A number in a list: decimal digits with blanks around them. -/
structure Item where
  before : Nat
  digits : Str
  after : Nat
  nonempty : digits ≠ []
  decimal : digits.all isDigit = true

def Item.text (i : Item) : Str := List.replicate i.before 32 ++ i.digits ++ List.replicate i.after 32

def Item.value (i : Item) : Nat := Go.decimal i.digits

/-- The items of a line, with commas between them. -/
def lineText (line : List Item) : Str := (str ",").intercalate (line.map Item.text)

/-- The values of the field `port`: an integer, in whatever form it is written, or a text that lists numbers, on
one line or more. A text with a single number is a list of one. -/
inductive PortField
  | number (text : Str) (n : Int)
  | list (lines : List (List Item)) (nonempty : lines ≠ []) (filled : [] ∉ lines)

def PortField.json : PortField → Json
  | .number text _ => .num text
  | .list lines _ _ => .str ((str "\n").intercalate (lines.map lineText))

/-- The number is listed. -/
def PortField.Lists : PortField → Int → Prop
  | .number _ n, p => p = n
  | .list lines _ _, p => ∃ i ∈ lines.flatten, (i.value : Int) = p

/-- The item that stands alone on a line. -/
def alone : List Item → List Item
  | [i] => [i]
  | _ => []

/-- The items read of the only line: where there is one it must have no blanks around it. -/
def readLine : List Item → List Item
  | [i] => if i.before = 0 ∧ i.after = 0 then [i] else []
  | line => line

/-- The items `/z-ufw` reads: of two lines or more those that stand alone on theirs. -/
def readItems : List (List Item) → List Item
  | [line] => readLine line
  | lines => lines.flatMap alone

/-- Each number listed is read somewhere, and fits into an int. -/
def PortField.Read : PortField → Prop
  | .number _ _ => False
  | .list lines _ _ => ∀ i ∈ lines.flatten, i.value < 2 ^ 63 ∧ ∃ j ∈ readItems lines, j.value = i.value

/-- The request has the field `port` and no field `op`. -/
def GivesPorts (w : World) (r : Body) (f : PortField) : Prop :=
  ∃ d, recv w r = (some d, none) ∧ field (some d) "op" = none ∧ field (some d) "port" = some f.json

/-- `/z-ufw` calls `ClosePortUFW` for the numbers listed, and for no others. -/
def ClosesGiven (f : PortField) : Prop := ∀ p, p ∈ calledPorts (some f.json) ↔ f.Lists p

section Given

theorem forM_append (ps qs : List Int) :
    (ps ++ qs).forM closePortUFW = (do ps.forM closePortUFW; qs.forM closePortUFW : Handler PUnit) := by
  induction ps with
  | nil => exact (pure_bind _ _).symm
  | cons p ps ih =>
    show (closePortUFW p >>= fun _ => (ps ++ qs).forM closePortUFW) =
      (closePortUFW p >>= fun _ => ps.forM closePortUFW) >>= fun _ => qs.forM closePortUFW
    rw [ih, bind_assoc]

theorem closeListed_eq (t : Str) : closeListed t = (listedPorts t).forM closePortUFW := by
  unfold closeListed listedPorts
  split_ifs
  · exact forM_closePort (fun i => closePortText_eq (trim i)) _
  · exact forM_closePort (fun i => closePortText_eq (trim i)) _
  · rfl

/-- `calledPorts` says what the handler does with the field. -/
theorem closePorts_eq (port : Option Json) : closePorts port = (calledPorts port).forM closePortUFW := by
  rcases port with _ | v
  · rfl
  cases v with
  | str s =>
    show (do closeListed s; closePortText s : Handler PUnit) = (listedPorts s ++ (atoi? s).toList).forM closePortUFW
    rw [forM_append, closeListed_eq, closePortText_eq]
  | null | bool _ | num _ | arr _ | obj _ => rfl

theorem zUfw_eq {w : World} {r : Body} {f : PortField} (h : GivesPorts w r f) :
    zUfw w r = (do (calledPorts (some f.json)).forM closePortUFW; reply (.text w.getUFW) true : Handler PUnit) := by
  obtain ⟨d, hrecv, -, hport⟩ := h
  unfold zUfw
  rw [hrecv]
  dsimp only
  rw [hport, closePorts_eq]

/-! ### What is read of a list -/

theorem Item.not_isSpace {i : Item} {c : UInt8} (hc : c ∈ i.digits) : isSpace c = false :=
  not_isSpace_of_isDigit (List.all_eq_true.mp i.decimal c hc)

theorem Item.mem_text {i : Item} {c : UInt8} (hc : c ∈ i.text) : c = 32 ∨ isDigit c = true := by
  rcases List.mem_append.mp hc with hc | hc
  · rcases List.mem_append.mp hc with hc | hc
    · exact Or.inl (List.eq_of_mem_replicate hc)
    · exact Or.inr (List.all_eq_true.mp i.decimal c hc)
  · exact Or.inl (List.eq_of_mem_replicate hc)

theorem Item.notMem_text {c : UInt8} (hspace : c ≠ 32) (hdigit : isDigit c = false) (i : Item) : c ∉ i.text := by
  intro hc
  rcases Item.mem_text hc with heq | hd
  · exact hspace heq
  · rw [hdigit] at hd
    cases hd

/-- The number of an item, where it fits. -/
def Item.port (i : Item) : Option Int := if i.value < 2 ^ 63 then some (i.value : Int) else none

theorem Item.atoi?_digits (i : Item) : atoi? i.digits = i.port := Go.atoi?_digits i.nonempty i.decimal

theorem Item.atoi?_trim (i : Item) : atoi? (trim i.text) = i.port := by
  have hblank : ∀ n, ∀ c ∈ List.replicate n (32 : UInt8), isSpace c = true := by
    intro n c hc
    rw [List.eq_of_mem_replicate hc]
    rfl
  rw [Item.text, trim_word _ _ i.nonempty (hblank _) (hblank _) fun c hc => Item.not_isSpace hc, i.atoi?_digits]

/-- Without a separator a number is read if there are no blanks around it. -/
theorem Item.atoi?_text (i : Item) : atoi? i.text = if i.before = 0 ∧ i.after = 0 then i.port else none := by
  split_ifs with h
  · rw [← i.atoi?_digits, Item.text, h.1, h.2]
    exact congrArg atoi? (List.append_nil _)
  · have hblank : (32 : UInt8) ∈ i.text := by
      rw [not_and_or] at h
      rcases h with hbefore | hafter
      · refine List.mem_append_left _ (List.mem_append_left _ (List.mem_replicate.mpr ⟨hbefore, rfl⟩))
      · exact List.mem_append_right _ (List.mem_replicate.mpr ⟨hafter, rfl⟩)
    exact atoi?_of_mem hblank (by decide) (by decide) (by decide)

theorem notMem_lineText {c : UInt8} (hcomma : c ≠ 44) (hspace : c ≠ 32) (hdigit : isDigit c = false)
    (line : List Item) : c ∉ lineText line := by
  intro hc
  obtain ⟨t, ht, hct⟩ := (mem_intercalate_of_ne hcomma).mp hc
  obtain ⟨i, -, rfl⟩ := List.mem_map.mp ht
  exact i.notMem_text hspace hdigit hct

theorem comma_mem_lineText (i j : Item) (rest : List Item) : (44 : UInt8) ∈ lineText (i :: j :: rest) :=
  mem_intercalate_self _ _ _

/-- A line is read as a number if there is one on it. -/
theorem atoi?_trim_lineText {line : List Item} {p : Int} :
    atoi? (trim (lineText line)) = some p ↔ ∃ i ∈ alone line, i.port = some p := by
  match line with
  | [] => exact iff_of_false nofun fun ⟨_, hi, _⟩ => List.not_mem_nil hi
  | [i] =>
    have htext : lineText [i] = i.text := List.intercalate_singleton
    rw [htext, i.atoi?_trim, alone]
    simp
  | i :: j :: rest =>
    have hcomma := mem_trim (comma_mem_lineText i j rest) (by decide)
    rw [atoi?_of_mem hcomma (by decide) (by decide) (by decide)]
    exact iff_of_false nofun fun ⟨_, hi, _⟩ => List.not_mem_nil hi

theorem listedPorts_lines {t : Str} (hline : (10 : UInt8) ∈ t) :
    listedPorts t = (split (str "\n") t).filterMap fun i => atoi? (trim i) :=
  if_pos (contains_singleton.mpr hline)

theorem listedPorts_commas {t : Str} (hline : (10 : UInt8) ∉ t) (hcomma : (44 : UInt8) ∈ t) :
    listedPorts t = (split (str ",") t).filterMap fun i => atoi? (trim i) :=
  (if_neg fun h => hline (contains_singleton.mp h)).trans (if_pos (contains_singleton.mpr hcomma))

theorem listedPorts_single {t : Str} (hline : (10 : UInt8) ∉ t) (hcomma : (44 : UInt8) ∉ t) : listedPorts t = [] :=
  (if_neg fun h => hline (contains_singleton.mp h)).trans (if_neg fun h => hcomma (contains_singleton.mp h))

/-- A text with a separator is not read as a whole. -/
theorem calledPorts_listed {t : Str} {c : UInt8} (hc : c ∈ t) (hsep : c = 10 ∨ c = 44) :
    calledPorts (some (.str t)) = listedPorts t := by
  have hnone : atoi? t = none := by
    rcases hsep with rfl | rfl
    · exact atoi?_of_mem hc (by decide) (by decide) (by decide)
    · exact atoi?_of_mem hc (by decide) (by decide) (by decide)
  show listedPorts t ++ (atoi? t).toList = _
  rw [hnone]
  exact List.append_nil _

/-- The numbers that are called for are those of the items read. -/
theorem mem_calledPorts {lines : List (List Item)} (hne : lines ≠ []) (hfilled : [] ∉ lines) (p : Int) :
    p ∈ calledPorts (some (PortField.list lines hne hfilled).json) ↔ ∃ i ∈ readItems lines, i.port = some p := by
  have hnewline : ∀ line, (10 : UInt8) ∉ lineText line := notMem_lineText (by decide) (by decide) (by decide)
  have hone : ∀ line, (str "\n").intercalate ([line].map lineText) = lineText line :=
    fun _ => List.intercalate_singleton
  show p ∈ calledPorts (some (.str ((str "\n").intercalate (lines.map lineText)))) ↔ _
  match lines with
  | [] => exact absurd rfl hne
  | [[]] => exact absurd List.mem_cons_self hfilled
  | [[i]] =>
    have htext : lineText [i] = i.text := List.intercalate_singleton
    have hline := hnewline [i]
    rw [htext] at hline
    have hcalled : calledPorts (some (.str i.text)) = listedPorts i.text ++ (atoi? i.text).toList := rfl
    rw [hone, htext, hcalled, listedPorts_single hline (i.notMem_text (by decide) (by decide)), List.nil_append,
      i.atoi?_text, Option.mem_toList, readItems, readLine]
    split_ifs <;> simp
  | [i :: j :: rest] =>
    have hcomma := comma_mem_lineText i j rest
    have hsplit : split (str ",") (lineText (i :: j :: rest)) = (i :: j :: rest).map Item.text := by
      refine split_intercalate (List.cons_ne_nil _ _) fun t ht => ?_
      obtain ⟨k, -, rfl⟩ := List.mem_map.mp ht
      exact k.notMem_text (by decide) (by decide)
    rw [hone, calledPorts_listed hcomma (Or.inr rfl), listedPorts_commas (hnewline _) hcomma, hsplit,
      List.filterMap_map, List.mem_filterMap]
    simp only [Function.comp_apply, Item.atoi?_trim, readItems, readLine]
  | line :: line' :: rest =>
    have hmem : (10 : UInt8) ∈ (str "\n").intercalate ((line :: line' :: rest).map lineText) :=
      mem_intercalate_self _ _ _
    have hsplit : split (str "\n") ((str "\n").intercalate ((line :: line' :: rest).map lineText)) =
        (line :: line' :: rest).map lineText := by
      refine split_intercalate (List.cons_ne_nil _ _) fun t ht => ?_
      obtain ⟨l, -, rfl⟩ := List.mem_map.mp ht
      exact hnewline l
    have hread : readItems (line :: line' :: rest) = (line :: line' :: rest).flatMap alone := rfl
    rw [calledPorts_listed hmem (Or.inl rfl), listedPorts_lines hmem, hsplit, List.filterMap_map, hread,
      List.mem_filterMap]
    simp only [Function.comp_apply, atoi?_trim_lineText, List.mem_flatMap]
    constructor
    · rintro ⟨l, hl, i, hi, hport⟩
      exact ⟨i, ⟨l, hl, hi⟩, hport⟩
    · rintro ⟨i, ⟨l, hl, hi⟩, hport⟩
      exact ⟨l, hl, i, hi, hport⟩

theorem mem_of_alone {line : List Item} {i : Item} (h : i ∈ alone line) : i ∈ line := by
  unfold alone at h
  split at h
  · exact h
  · cases h

theorem mem_flatten_of_readItems {lines : List (List Item)} {i : Item} (h : i ∈ readItems lines) :
    i ∈ lines.flatten := by
  unfold readItems at h
  split at h
  · rw [List.flatten_singleton]
    unfold readLine at h
    split at h
    · split_ifs at h
      · exact h
      · cases h
    · exact h
  · obtain ⟨l, hl, hi⟩ := List.mem_flatMap.mp h
    exact List.mem_flatten.mpr ⟨l, hl, mem_of_alone hi⟩

theorem Item.port_eq_some {i : Item} {p : Int} : i.port = some p ↔ i.value < 2 ^ 63 ∧ (i.value : Int) = p := by
  unfold Item.port
  split_ifs with h
  · rw [Option.some.injEq, and_iff_right h]
  · exact iff_of_false nofun fun hp => h hp.1

/-- **`/z-ufw` closes the ports it is given exactly if each number listed is read somewhere**: none of a number of the
JSON document, the number of a text with one if there are no blanks around it, those of a list with commas, and
of a list with line breaks those that stand alone on a line. -/
theorem zUfw_closes_iff {w : World} {r : Body} {f : PortField} (h : GivesPorts w r f) :
    zUfw w r = (do (calledPorts (some f.json)).forM closePortUFW; reply (.text w.getUFW) true : Handler PUnit) ∧
      (ClosesGiven f ↔ f.Read) := by
  refine ⟨zUfw_eq h, ?_⟩
  cases f with
  | number text n =>
    refine iff_of_false (fun hcloses => ?_) id
    exact absurd ((hcloses n).mpr rfl) List.not_mem_nil
  | list lines hne hfilled =>
    constructor
    · intro hcloses i hi
      have hcalled := (hcloses i.value).mpr ⟨i, hi, rfl⟩
      obtain ⟨j, hj, hport⟩ := (mem_calledPorts hne hfilled _).mp hcalled
      obtain ⟨hsmall, hvalue⟩ := Item.port_eq_some.mp hport
      have heq : j.value = i.value := Int.ofNat_inj.mp hvalue
      exact ⟨heq ▸ hsmall, j, hj, heq⟩
    · intro hread p
      rw [mem_calledPorts hne hfilled]
      constructor
      · rintro ⟨i, hi, hport⟩
        exact ⟨i, mem_flatten_of_readItems hi, (Item.port_eq_some.mp hport).2⟩
      · rintro ⟨i, hi, rfl⟩
        obtain ⟨hsmall, j, hj, heq⟩ := hread i hi
        exact ⟨j, hj, Item.port_eq_some.mpr ⟨heq ▸ hsmall, congrArg _ heq⟩⟩

end Given

/-- The number 80. -/
def eighty : Item := ⟨0, str "80", 0, by decide, by decide⟩

/-- A request with the field `port`. -/
def portRequest (f : PortField) : World × Body :=
  ({ quietWorld with unmarshal := fun _ => .ok (some [(str "port", f.json)]) }, ⟨str "\x7b\x7d", none⟩)

theorem givesPorts_portRequest (f : PortField) : GivesPorts (portRequest f).1 (portRequest f).2 f :=
  ⟨_, rfl, rfl, rfl⟩

theorem zUfw_closes_iff_text : ClosesGiven (.list [[eighty]] (by simp) (by simp)) := by
  refine (zUfw_closes_iff (givesPorts_portRequest _)).2.mpr fun i hi => ?_
  rw [List.flatten_singleton, List.mem_singleton] at hi
  rw [hi]
  exact ⟨by decide, eighty, List.mem_cons_self, rfl⟩

/-- A JSON number is dropped. -/
theorem not_closesGiven_number : GivesPorts (portRequest (.number (str "80") 80)).1
    (portRequest (.number (str "80") 80)).2 (.number (str "80") 80) ∧ ¬ClosesGiven (.number (str "80") 80) := by
  refine ⟨⟨_, rfl, rfl, rfl⟩, fun hcloses => ?_⟩
  exact absurd ((hcloses 80).mpr rfl) List.not_mem_nil

end ProxyZ.Server
