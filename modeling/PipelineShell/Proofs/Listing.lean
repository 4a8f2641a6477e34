/-
# Proofs.Listing -- what can be read back from a listing of processes

`ps` prints a line for each process that is no thread: its number, a tab, and its name.  Whoever
reads this cuts the text at the ends of its lines and each line at its first tab
(`Builtin.pairs?`).  A tab in a name does no harm then, but the end of a line does: it is
printed as it is, so a name that holds one takes up several lines, and what stands behind it
may look like the line of another process.

`Builtin.recovers_iff` says that nothing else goes wrong: the processes are read back in the
order of their numbers, none lost and none made up, exactly if no name has the end of a line
in it.
-/
import Mathlib.Data.List.Nodup
import PipelineShell.Arguments.Scan
import PipelineShell.Proofs.Encoding
import PipelineShell.Proofs.Numeral
import PipelineShell.Proofs.Observed
import PipelineShell.Proofs.Segments

namespace PipelineShell.Builtin

set_option autoImplicit false

open Stateful
open Host (Act OnRecord)

variable {W : Type} [Host W]

/-! ## Reading -/

/-- The lines of a text in which every line is ended; another text has none. -/
def lines? (text : List Char) : Option (List (List Char)) :=
  match (Text.segments '\n' text).reverse with
  | [] :: lines => some lines.reverse
  | _ => none

/-- A line is cut at its first tab, and what stands in front is read as a number. -/
def pair? (line : List Char) : Option (Nat × String) :=
  match line.dropWhile (· != '\t') with
  | [] => none
  | _ :: name => (Numeral.digits (line.takeWhile (· != '\t'))).map (·, String.ofList name)

/-- The lines that bytes are read as. -/
def linesOf? (bytes : Bytes) : Option (List (List Char)) :=
  (Utf8.decode? bytes).bind fun text => lines? text.toList

/-- The numbers and names that they are read as. -/
def pairs? (bytes : Bytes) : Option (List (Nat × String)) := (linesOf? bytes).bind (·.mapM pair?)

/-- As many lines are read as are ended. -/
theorem length_of_lines? {text : List Char} {lines : List (List Char)}
    (read : lines? text = some lines) : lines.length = text.count '\n' := by
  have count := Text.length_segments '\n' text
  unfold lines? at read
  split at read
  case h_1 front reversed =>
    obtain rfl := Option.some.inj read
    rw [← List.length_reverse, reversed, List.length_cons] at count
    rw [List.length_reverse]
    exact Nat.succ.inj count
  case h_2 => cases read

theorem segments_ended (lines : List (List Char)) (clear : ∀ line ∈ lines, '\n' ∉ line) :
    Text.segments '\n' (lines.flatMap (· ++ ['\n'])) = lines ++ [[]] := by
  induction lines with
  | nil => rfl
  | cons line rest ih =>
      obtain ⟨here, later⟩ := List.forall_mem_cons.1 clear
      rw [List.flatMap_cons, List.append_assoc, List.singleton_append,
        Text.segments_marked here, ih later, List.cons_append]

/-- Lines are read back, unless one of them has an end inside. -/
theorem lines?_ended {lines : List (List Char)} (clear : ∀ line ∈ lines, '\n' ∉ line) :
    lines? (lines.flatMap (· ++ ['\n'])) = some lines := by
  rw [lines?, segments_ended lines clear, List.reverse_append]
  exact congrArg some (List.reverse_reverse lines)

/-! ## The listing -/

/-- The line of one process. -/
def entryLine (entry : ProcessEntry) : List Char :=
  (toString entry.pid).toList ++ '\t' :: entry.name.toList

/-- The text that is printed. -/
def listing (table : List ProcessEntry) : Bytes := ((listed table).flatMap processLine).flatten

theorem listing_eq (table : List ProcessEntry) :
    listing table = Utf8.encode (String.ofList
      (((listed table).map entryLine).flatMap (· ++ ['\n']))) := by
  rw [listing, Utf8.encode, String.toList_ofList]
  induction listed table with
  | nil => rfl
  | cons entry rest ih =>
      rw [List.flatMap_cons, List.flatten_append, ih, List.map_cons, List.flatMap_cons,
        List.flatMap_append]
      refine congrArg (· ++ _) ?_
      simp only [processLine, entryLine, Utf8.encode, List.flatMap_append, List.flatMap_cons,
        List.flatten_cons, List.flatten_nil, List.append_assoc, List.append_nil]
      rfl

theorem linesOf?_listing (table : List ProcessEntry) :
    linesOf? (listing table) = lines? (((listed table).map entryLine).flatMap (· ++ ['\n'])) := by
  rw [linesOf?, listing_eq, Utf8.decode?_encode, Option.bind_some, String.toList_ofList]

/-- A number is written without tabs and ends of lines. -/
theorem digit_ne {pid : Nat} {c : Char} (member : c ∈ (toString pid).toList) :
    c ≠ '\t' ∧ c ≠ '\n' := by
  have digit := (Numeral.decimal_toString pid).isDigit c member
  constructor
  · rintro rfl
    cases digit
  · rintro rfl
    cases digit

/-- **The line of a process is read back as its number and its name**, whatever its name is. -/
theorem pair?_entryLine (entry : ProcessEntry) :
    pair? (entryLine entry) = some (entry.pid, entry.name) := by
  have clear : ∀ c ∈ (toString entry.pid).toList, (c != '\t') = true := fun c member =>
    bne_iff_ne.2 (digit_ne member).1
  have behind : (entryLine entry).dropWhile (· != '\t') = '\t' :: entry.name.toList := by
    rw [entryLine, List.dropWhile_append_of_pos clear]
    rfl
  have front : (entryLine entry).takeWhile (· != '\t') = (toString entry.pid).toList := by
    rw [entryLine, List.takeWhile_append_of_pos clear]
    exact List.append_nil _
  rw [pair?, behind, front]
  simp only [Numeral.digits_eq_some_iff.2 (Numeral.decimal_toString entry.pid), Option.map_some,
    String.ofList_toList]

theorem mapM_pair? (entries : List ProcessEntry) :
    (entries.map entryLine).mapM pair? =
      some (entries.map fun entry => (entry.pid, entry.name)) := by
  induction entries with
  | nil => rfl
  | cons entry rest ih => simp [pair?_entryLine, ih]

/-- The end of a line stands in the line of a process as often as in its name. -/
theorem count_entryLine (entry : ProcessEntry) :
    (entryLine entry).count '\n' = entry.name.toList.count '\n' := by
  have absent : (toString entry.pid).toList.count '\n' = 0 :=
    List.count_eq_zero.2 fun member => (digit_ne member).2 rfl
  rw [entryLine, List.count_append, absent, Nat.zero_add, List.count_cons_of_ne (by decide)]

/-- Every line has one end behind it, and those inside it. -/
theorem count_ended (lines : List (List Char)) :
    (lines.flatMap (· ++ ['\n'])).count '\n' = lines.flatten.count '\n' + lines.length := by
  induction lines with
  | nil => rfl
  | cons line rest ih =>
      rw [List.flatMap_cons, List.count_append, List.count_append, List.count_singleton_self, ih,
        List.flatten_cons, List.count_append, List.length_cons]
      omega

theorem mem_listed {table : List ProcessEntry} {entry : ProcessEntry} :
    entry ∈ listed table ↔ entry ∈ table ∧ entry.isThread = false := by
  rw [listed, List.mem_mergeSort, List.mem_filter, Bool.not_eq_true']

/-- The order by numbers, as the sorting knows it, is transitive and total. -/
theorem pid_le_trans (a b c : ProcessEntry) :
    decide (a.pid ≤ b.pid) → decide (b.pid ≤ c.pid) → decide (a.pid ≤ c.pid) := by
  simpa using Nat.le_trans

theorem pid_le_total (a b : ProcessEntry) :
    decide (a.pid ≤ b.pid) || decide (b.pid ≤ a.pid) := by
  simpa using Nat.le_total a.pid b.pid

/-- Where no two processes have one number, their numbers ascend. -/
theorem listed_ascending {table : List ProcessEntry}
    (distinct : (table.map ProcessEntry.pid).Nodup) :
    (listed table).Pairwise (·.pid < ·.pid) := by
  have sorted : (listed table).Pairwise (·.pid ≤ ·.pid) :=
    (List.pairwise_mergeSort pid_le_trans pid_le_total _).imp of_decide_eq_true
  have several : ((listed table).map ProcessEntry.pid).Nodup :=
    ((List.mergeSort_perm _ _).map _).nodup_iff.2 (distinct.sublist (List.filter_sublist.map _))
  exact (sorted.and (List.pairwise_map.1 several)).imp fun both =>
    Nat.lt_of_le_of_ne both.1 both.2

/-- The text can be read back: its lines are those of all processes that are no threads, in
the order of their numbers, and the numbers and names that are read from it are theirs. -/
def Recovers (table : List ProcessEntry) (text : Bytes) : Prop :=
  ∃ shown : List ProcessEntry, shown.Perm (table.filter (!·.isThread)) ∧
    shown.Pairwise (·.pid < ·.pid) ∧ linesOf? text = some (shown.map entryLine) ∧
    pairs? text = some (shown.map fun entry => (entry.pid, entry.name))

/-- **A listing can be read back exactly if no name has the end of a line in it.** -/
theorem recovers_iff {table : List ProcessEntry} (distinct : (table.map ProcessEntry.pid).Nodup) :
    Recovers table (listing table) ↔
      ∀ entry ∈ table, entry.isThread = false → '\n' ∉ entry.name.toList := by
  constructor
  · rintro ⟨shown, perm, -, lines, -⟩ entry member process inside
    -- more ends of lines stand in the text than there are processes
    have ends := length_of_lines? ((linesOf?_listing table).symm.trans lines)
    have many : shown.length = (listed table).length :=
      (perm.trans (List.mergeSort_perm _ _).symm).length_eq
    rw [List.length_map, many, count_ended, List.length_map] at ends
    have none_ : ((listed table).map entryLine).flatten.count '\n' = 0 := by omega
    rw [← List.count_pos_iff, ← count_entryLine, List.count_pos_iff] at inside
    exact List.count_eq_zero.1 none_ (List.mem_flatten_of_mem
      (List.mem_map_of_mem (mem_listed.2 ⟨member, process⟩)) inside)
  · intro clear
    have whole : ∀ line ∈ (listed table).map entryLine, '\n' ∉ line := by
      intro line member
      obtain ⟨entry, here, rfl⟩ := List.mem_map.1 member
      obtain ⟨known, process⟩ := mem_listed.1 here
      rw [← List.count_eq_zero, count_entryLine, List.count_eq_zero]
      exact clear entry known process
    have lines : linesOf? (listing table) = some ((listed table).map entryLine) :=
      (linesOf?_listing table).trans (lines?_ended whole)
    refine ⟨listed table, List.mergeSort_perm _ _, listed_ascending distinct, lines, ?_⟩
    rw [pairs?, lines, Option.bind_some, mapM_pair?]

/-! ## The calls -/

/-- What a call comes to that sets `ps` to work when these are the processes. -/
structure Lists {α : Type} (past : W → List Act) (output error : OutputHandle)
    (pipe : Option Nat) (context : Context W) (table : List ProcessEntry)
    (ran : (Except ShellError α × Builtin) × Context W) (acts report : List Act)
    (result : Except IoError Unit) : Prop where
  said : Host.Said output (listing table) result acts
  grown : past ran.2.world =
    past context.world ++ (acts ++ report ++ handed pipe (Host.taken acts))
  /-- Not to get the listing through is a failure, and told. -/
  told : ∀ act ∈ report, act.To error
  quiet : result = .ok () → report = []
  recorded : ran.1.2.recorded = Host.taken acts
  session : ran.2.session = context.session
  status : EndsWith ran (if result.isOk then 0 else 1)

/-- What got through can be read back, if no name stands in the way. -/
theorem Lists.recovers_iff {α : Type} {past : W → List Act} {output error : OutputHandle}
    {pipe : Option Nat} {context : Context W} {table : List ProcessEntry}
    {ran : (Except ShellError α × Builtin) × Context W} {acts report : List Act}
    {result : Except IoError Unit}
    (lists : Lists past output error pipe context table ran acts report result)
    (through : result = .ok ()) (distinct : (table.map ProcessEntry.pid).Nodup) :
    Recovers table (Host.taken acts) ↔
      ∀ entry ∈ table, entry.isThread = false → '\n' ∉ entry.name.toList := by
  rw [lists.said.whole through, Builtin.recovers_iff distinct]

section Calls

variable {past : W → List Act} (onRecord : OnRecord past) {words : List String}
include onRecord

theorem Serves.lists {α : Type} {streams : Streams} {pipe : Option Nat}
    {context begun : Context W} {ran : (Except ShellError α × Builtin) × Context W}
    (serves : Serves past streams pipe (.ok .ps) begun ran)
    (session : begun.session = context.session) (unheard : past begun.world = past context.world) :
    ∃ acts report result, Lists past streams.output streams.error pipe context
      (Host.processes begun.world) ran acts report result := by
  obtain ⟨acts, grown, taken, said⟩ := Output.writePieces_said onRecord streams.output
    ((listed (Host.processes begun.world)).flatMap processLine) begun.world
  have works : Invocation.ps.execute streams.output begun =
      (printed <$> Context.act (Output.writePieces streams.output
        ((listed (Host.processes begun.world)).flatMap processLine))) begun := rfl
  rw [map_apply, Context.act_apply] at works
  generalize Output.writePieces streams.output
    ((listed (Host.processes begun.world)).flatMap processLine) begun.world = answered
    at grown taken said works
  obtain ⟨⟨accepted, fault | done⟩, written⟩ := answered
  · obtain ⟨report, _, told, settles⟩ :=
      serves.settles_reporting onRecord (perform_complained works)
    have settles := settles.since grown rfl
    refine ⟨acts, report, _, said, ?_, told.offers, fun through => ?_,
      settles.recorded.trans taken.symm, settles.session.trans session, settles.status⟩
    · rw [settles.grown, unheard, taken]
    · cases through
  · have settles := (serves.settles (perform_done works)).since grown rfl
    refine ⟨acts, [], _, said, ?_, List.forall_mem_nil _, fun _ => rfl,
      settles.recorded.trans taken.symm, settles.session.trans session, settles.status⟩
    rw [settles.grown, unheard, taken]

/-- **What `ps` prints can be read back, if no name stands in the way.**  Whether it is run or
its output is asked for, it prints the listing of the processes that there are, as far as the
stream takes it.  Where no two of them have one number and all is taken, they are read back
from it exactly if no process that is listed has the end of a line in its name. -/
theorem ps_recovers [ArgumentReader] {ps : Builtin} (awaits : ps.Awaits .ps words)
    (reads : Invocation.parse .ps [Kind.ps.name] words = .ok .ps) (context : Context W) :
    (let table := Host.processes context.world
    ∃ acts report result, Lists past ps.streams.output ps.streams.error ps.pipe context table
        (ps.run context) acts report result ∧
      (result = .ok () → (table.map ProcessEntry.pid).Nodup →
        (Recovers table (Host.taken acts) ↔
          ∀ entry ∈ table, entry.isThread = false → '\n' ∉ entry.name.toList))) ∧
    let table := Host.processes (ps.setOutput .scratch context).2.world
    ∃ acts report result, Lists past .scratch ps.streams.error none context table
        (ps.output context) acts report result ∧
      (result = .ok () → (table.map ProcessEntry.pid).Nodup →
        (Recovers table (Host.taken acts) ↔
          ∀ entry ∈ table, entry.isThread = false → '\n' ∉ entry.name.toList)) := by
  have ran := run_serves onRecord awaits context
  have collected := output_serves onRecord awaits context
  rw [reads] at ran collected
  obtain ⟨acts, report, result, lists⟩ := ran.lists onRecord rfl rfl
  obtain ⟨acts', report', result', lists'⟩ := collected.lists onRecord
    (ps.setOutput_spares Context.aloof_session .scratch context)
    (setOutput_past onRecord ps .scratch context)
  exact ⟨⟨acts, report, result, lists, lists.recovers_iff⟩,
    acts', report', result', lists', lists'.recovers_iff⟩

end Calls

open scoped Arguments

/-- A world in which these processes are. -/
def peopled (processes : List ProcessEntry) : Setting :=
  { environment := [], files := [], processes, mortal := [] }

/-- Two processes out of order, one of them with a tab in its name, and a thread between. -/
def crowd : List ProcessEntry := [⟨12, "z", false⟩, ⟨7, "c\nd", true⟩, ⟨3, "a\tb", false⟩]

/-- The bytes that `ps` prints when these processes are there. -/
def printout (processes : List ProcessEntry) : Bytes :=
  (((fresh .ps).parseArguments []).run (peopled processes).context).1.2.recorded

/-- Nothing stands in the way of the listing there. -/
theorem printout_eq (processes : List ProcessEntry) : printout processes = listing processes := by
  have taken : ∀ bytes, Ensures (fun _ : Chronicle Setting => True)
      (Host.write .standardOutput bytes) fun answer _ => answer = .ok bytes.length ∧ True :=
    fun _ _ _ => ⟨rfl, trivial⟩
  have absorbed := (Output.writePieces_absorbed taken ((listed processes).flatMap processLine)
    (peopled processes).context.world trivial).1
  rcases wrote : Output.writePieces .standardOutput ((listed processes).flatMap processLine)
    (peopled processes).context.world with ⟨answer, left⟩
  rw [wrote] at absorbed
  obtain rfl : answer = (listing processes, .ok ()) := absorbed
  have works : Invocation.ps.execute .standardOutput (peopled processes).context =
      ((listing processes, .ok 0), { (peopled processes).context with world := left }) := by
    have table : Host.processes (peopled processes).context.world = processes := rfl
    simp only [Invocation.execute, printProcesses, bind_apply, Context.look, map_apply,
      Context.act_apply, table, wrote]
    rfl
  have recorded : printout processes =
      (perform .standard (.ok .ps) (peopled processes).context).1.1 := by
    rw [printout, run_unrun rfl rfl]
    rfl
  rw [recorded, perform_done works]

/-- A tab in a name and whatever is in the name of a thread do no harm. -/
theorem ps_recovers_tab :
    OnRecord (Chronicle.past : Chronicle Setting → List Act) ∧
    ((fresh .ps).parseArguments []).Awaits .ps [] ∧
    Invocation.parse .ps [Kind.ps.name] [] = .ok .ps ∧
    ((let table := Host.processes (peopled crowd).context.world
    ∃ acts report result, Lists Chronicle.past ((fresh .ps).parseArguments []).streams.output
        ((fresh .ps).parseArguments []).streams.error ((fresh .ps).parseArguments []).pipe
        (peopled crowd).context table
        (((fresh .ps).parseArguments []).run (peopled crowd).context) acts report result ∧
      (result = .ok () → (table.map ProcessEntry.pid).Nodup →
        (Recovers table (Host.taken acts) ↔
          ∀ entry ∈ table, entry.isThread = false → '\n' ∉ entry.name.toList))) ∧
    let table := Host.processes
      (((fresh .ps).parseArguments []).setOutput .scratch (peopled crowd).context).2.world
    ∃ acts report result, Lists Chronicle.past .scratch
        ((fresh .ps).parseArguments []).streams.error none (peopled crowd).context table
        (((fresh .ps).parseArguments []).output (peopled crowd).context) acts report result ∧
      (result = .ok () → (table.map ProcessEntry.pid).Nodup →
        (Recovers table (Host.taken acts) ↔
          ∀ entry ∈ table, entry.isThread = false → '\n' ∉ entry.name.toList))) ∧
    printout crowd = Utf8.encode "3\ta\tb\n12\tz\n" ∧
    pairs? (printout crowd) = some [(3, "a\tb"), (12, "z")] := by
  have awaits := awaits_parseArguments .ps []
  have sorted : listed crowd = [⟨3, "a\tb", false⟩, ⟨12, "z", false⟩] := by
    simp [listed, crowd, List.mergeSort, List.MergeSort.Internal.splitInTwo]
  have printed : printout crowd = Utf8.encode "3\ta\tb\n12\tz\n" := by
    rw [printout_eq, listing, sorted]
    decide +kernel
  exact ⟨Chronicle.onRecord, awaits, rfl, ps_recovers Chronicle.onRecord awaits rfl _, printed,
    printed ▸ by decide +kernel⟩

/-- One process with an end of a line in its name. -/
def forger : List ProcessEntry := [⟨5, "a\n1\tx", false⟩]

/-- **Such a name makes a process up**, and one whose number is out of order. -/
theorem forged_line : printout forger = listing forger ∧ (forger.map ProcessEntry.pid).Nodup ∧
    pairs? (printout forger) = some [(5, "a"), (1, "x")] ∧
    ¬ Recovers forger (printout forger) := by
  have printed := printout_eq forger
  have distinct : (forger.map ProcessEntry.pid).Nodup := by decide
  refine ⟨printed, distinct, by decide +kernel, fun recovers => ?_⟩
  rw [printed, recovers_iff distinct] at recovers
  exact recovers ⟨5, "a\n1\tx", false⟩ (List.mem_singleton_self _) rfl (by decide)

end PipelineShell.Builtin
