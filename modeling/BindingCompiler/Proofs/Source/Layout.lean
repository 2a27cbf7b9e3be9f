import BindingCompiler.Source.Render
import BindingCompiler.Text.Split

/-!
# `BindingCompiler.Proofs.Source.Layout`: blocks are closed where they were opened

The writer counts the blocks that are open, and takes one off when a block is closed. Where none
is open the counter stays at zero, so a brace too many would not be noticed: the text would go on
with the indentation of the outermost level. The functions of the renderer open and close blocks
by hand, around loops and under conditions. This module shows that they pair the calls.

`blocksAfter?` counts as the writer does, but gives up at a brace that has no block to close.

* `counts_of_blocksAfter?`: as long as it does not give up, both counters agree, and are the number
  of the blocks that were opened less the number of those that were closed.
* `Closed`: calls that leave the blocks around them as they are, whatever these are. Calls of this
  kind can follow each other, and a pair of braces can be put around them.
* `closed_bindCalls`, `closed_callbackCalls` and so on: one lemma for each function of the renderer,
  along its own conditions and loops, up to `closed_bindingClassCalls`, `closed_listenerClassCalls`
  and `closed_factoryClassCalls` for the classes.
* `Balanced`: what this means for the text. `balanced_sources` says so of the source of every plan
  and of the factory for any plans.

## Lines of the writer and lines of the text

A line is here what one call of the writer writes. Names are written as they are, and a name can
have a line feed in it. Then the text has more lines than there were calls, and what comes behind
the line feed is not indented. `Balanced.pieces` says exactly which lines the text has, and
`Balanced.unbroken` that they are those of the writer where nothing has a line feed in it.
-/

set_option autoImplicit false

namespace BindingCompiler.Source

namespace Layout

/-! ### Counting braces -/

/-- Whether a call opens a block. -/
def Item.opens : Item → Bool
  | .opening _ => true
  | _ => false

/-- Whether a call closes a block. -/
def Item.closes : Item → Bool
  | .closing => true
  | _ => false

/-- The number of calls that open a block. -/
def openings (calls : List Item) : Nat := calls.countP Item.opens

/-- The number of calls that close a block. -/
def closings (calls : List Item) : Nat := calls.countP Item.closes

/-- The number of open blocks after a call, given the number before it. Without an open block there
is none to close. -/
def Item.blocksAfter? (depth : Nat) : Item → Option Nat
  | .line _ | .blank => some depth
  | .opening _ => some (depth + 1)
  | .closing => if depth = 0 then none else some (depth - 1)

/-- The number of open blocks after some calls, unless one of them has no block to close. -/
def blocksAfter? (depth : Nat) (calls : List Item) : Option Nat :=
  calls.foldlM Item.blocksAfter? depth

variable {calls more before after : List Item} {call : Item} {depth inner : Nat}

/-- The first call is counted before the others. -/
theorem blocksAfter?_cons (depth : Nat) (call : Item) (more : List Item) :
    blocksAfter? depth (call :: more)
      = (call.blocksAfter? depth).bind fun inner => blocksAfter? inner more := by
  rw [blocksAfter?, List.foldlM_cons]
  rfl

/-- Counting goes on where it was left. -/
theorem blocksAfter?_append (depth : Nat) (calls more : List Item) :
    blocksAfter? depth (calls ++ more)
      = (blocksAfter? depth calls).bind fun inner => blocksAfter? inner more := by
  rw [blocksAfter?, List.foldlM_append]
  rfl

/-- The blocks that are opened in both parts add up. -/
theorem openings_append (calls more : List Item) :
    openings (calls ++ more) = openings calls + openings more :=
  List.countP_append

/-- So do those that are closed. -/
theorem closings_append (calls more : List Item) :
    closings (calls ++ more) = closings calls + closings more :=
  List.countP_append

/-- At one call both counters agree, and count the block that it opens or closes. -/
theorem Item.counts_of_blocksAfter? (h : call.blocksAfter? depth = some inner) :
    call.depthAfter depth = inner ∧ inner + closings [call] = depth + openings [call] := by
  cases call with
  | line text | blank | opening head =>
      cases h
      exact ⟨rfl, rfl⟩
  | closing =>
      simp only [Item.blocksAfter?, Option.ite_none_left_eq_some, Option.some.injEq] at h
      obtain ⟨hne, rfl⟩ := h
      refine ⟨rfl, ?_⟩
      -- The counter is cut off at zero, but it is not at zero here.
      show depth - 1 + 1 = depth + 0
      omega

/-- As long as every closing brace has a block to close, both counters agree, and count the blocks
that are opened and not closed. -/
theorem counts_of_blocksAfter? (h : blocksAfter? depth calls = some inner) :
    depthAfter depth calls = inner ∧ inner + closings calls = depth + openings calls := by
  induction calls generalizing depth with
  | nil =>
      cases h
      exact ⟨rfl, rfl⟩
  | cons call more ih =>
      rw [blocksAfter?_cons, Option.bind_eq_some_iff] at h
      obtain ⟨middle, hcall, hmore⟩ := h
      obtain ⟨hdepth, hstep⟩ := Item.counts_of_blocksAfter? hcall
      obtain ⟨hafter, hcounts⟩ := ih hmore
      constructor
      · show depthAfter (call.depthAfter depth) more = inner
        rw [hdepth, hafter]
      · rw [← List.singleton_append, closings_append, openings_append]
        omega

/-! ### Calls that close what they open -/

/-- The calls close the blocks that they open, and no others. -/
def Closed (calls : List Item) : Prop := ∀ depth, blocksAfter? depth calls = some depth

/-- Without a call nothing changes. -/
theorem closed_nil : Closed [] := fun _ => rfl

/-- A line leaves the blocks as they are. -/
theorem closed_line (text : String) : Closed [.line text] := fun _ => rfl

/-- So does an empty line. -/
theorem closed_blank : Closed [.blank] := fun _ => rfl

/-- Calls of this kind can follow each other. -/
theorem Closed.append (hcalls : Closed calls) (hmore : Closed more) : Closed (calls ++ more) := by
  intro depth
  rw [blocksAfter?_append, hcalls, Option.bind_some, hmore]

/-- They can follow a line, or a single call that changes nothing. -/
theorem Closed.cons (hcall : Closed [call]) (hmore : Closed more) : Closed (call :: more) :=
  hcall.append hmore

/-- A pair of braces can be put around them. The block that is closed at the end is the one that
was opened at the beginning. -/
theorem Closed.enclosed (head : String) (h : Closed calls) :
    Closed (.opening head :: (calls ++ [.closing])) := by
  intro depth
  rw [blocksAfter?_cons]
  show blocksAfter? (depth + 1) (calls ++ [.closing]) = some depth
  rw [blocksAfter?_append, h, Option.bind_some]
  rfl

/-- They can be made once for each entry of a list. -/
theorem Closed.flatMap {α : Type} {f : α → List Item} {l : List α} (h : ∀ a ∈ l, Closed (f a)) :
    Closed (l.flatMap f) := by
  induction l with
  | nil => exact closed_nil
  | cons a l ih =>
      rw [List.flatMap_cons]
      exact (h a List.mem_cons_self).append (ih fun b hb => h b (List.mem_cons_of_mem a hb))

/-- So can single calls that change nothing. -/
theorem Closed.map {α : Type} {f : α → Item} (h : ∀ a, Closed [f a]) (l : List α) :
    Closed (l.map f) := by
  induction l with
  | nil => exact closed_nil
  | cons a l ih =>
      rw [List.map_cons]
      exact (h a).cons ih

/-- Up to any place among such calls, every closing brace has a block to close. -/
theorem Closed.exists_before (h : Closed calls) (hsplit : calls = before ++ more) :
    ∃ depth, blocksAfter? 0 before = some depth ∧ blocksAfter? depth more = some 0 := by
  have hrun := h 0
  rwa [hsplit, blocksAfter?_append, Option.bind_eq_some_iff] at hrun

/-! ### Lines and their places -/

/-- What a call writes, without the indentation. -/
def Item.content : Item → String
  | .line text => text
  | .blank => ""
  | .opening head => head ++ " \x7b"
  | .closing => "\x7d"

/-- The number of blocks that are open at a call that comes after others. A closing brace is
outside of the block that it closes. -/
def openAt (before : List Item) (call : Item) : Nat :=
  openings before - closings (before ++ [call])

/-- The line of a call that comes after others: nothing if the call writes nothing, and otherwise
two spaces for each block that is open there, and what the call writes. -/
def placedLine (before : List Item) (call : Item) : String :=
  if call.content = "" then ""
  else String.ofList (List.replicate (2 * openAt before call) ' ') ++ call.content

/-- The lines of all calls, each in its place. -/
def placedLines (calls : List Item) : List String :=
  calls.mapIdx fun i call => placedLine (calls.take i) call

/-- The line of a call, cut at the line feeds that the call writes. Only the first of the pieces is
indented. -/
def placedPieces (before : List Item) (call : Item) : List (List Char) :=
  if call.content = "" then [[]]
  else (Text.segments '\n' call.content.toList).modifyHead
    (List.replicate (2 * openAt before call) ' ' ++ ·)

/-- There is one line for each call. -/
theorem length_lines (depth : Nat) (calls : List Item) :
    (lines depth calls).length = calls.length := by
  induction calls generalizing depth with
  | nil => rfl
  | cons call more ih => rw [lines, List.length_cons, ih, List.length_cons]

/-- Among calls that so far have closed only open blocks, the writer indents a line by the blocks
that were opened and not closed. -/
theorem text_eq_placedLine (h : blocksAfter? 0 before = some depth) (call : Item) :
    call.text depth = placedLine before call := by
  have hcounts := (counts_of_blocksAfter? h).2
  have hopen : openAt before call = depth - closings [call] := by
    rw [openAt, closings_append]
    omega
  rw [placedLine, hopen]
  cases call with
  | line text =>
      show (if text.isEmpty then "" else indent depth ++ text)
        = if text = "" then "" else indent depth ++ text
      simp only [String.isEmpty_iff]
  | blank => rfl
  | opening head =>
      have hne : head ++ " \x7b" ≠ "" := by simp [String.append_eq_empty_iff]
      show indent depth ++ head ++ " \x7b"
        = if head ++ " \x7b" = "" then "" else indent depth ++ (head ++ " \x7b")
      rw [if_neg hne, String.append_assoc]
  | closing => rfl

/-- The line of a call stands where the call does. -/
theorem getElem?_lines (before : List Item) (call : Item) (after : List Item) :
    (lines 0 (before ++ call :: after))[before.length]?
      = some (call.text (depthAfter 0 before)) := by
  rw [lines_append, lines, List.getElem?_append_right (Nat.le_of_eq (length_lines 0 before)),
    length_lines, Nat.sub_self]
  rfl

/-- The lines of calls that close what they open are all in their places. -/
theorem Closed.lines_eq (h : Closed calls) : lines 0 calls = placedLines calls := by
  refine List.ext_getElem? fun i => ?_
  rw [placedLines, List.getElem?_mapIdx]
  by_cases hi : i < calls.length
  · have hsplit : calls = calls.take i ++ calls[i] :: calls.drop (i + 1) := by
      rw [List.getElem_cons_drop, List.take_append_drop]
    have hlength : (calls.take i).length = i := List.length_take_of_le (Nat.le_of_lt hi)
    obtain ⟨depth, hbefore, -⟩ := h.exists_before hsplit
    have hline := getElem?_lines (calls.take i) calls[i] (calls.drop (i + 1))
    rw [← hsplit, hlength, (counts_of_blocksAfter? hbefore).1, text_eq_placedLine hbefore] at hline
    rw [hline, List.getElem?_eq_getElem hi, Option.map_some]
  · rw [List.getElem?_eq_none (Nat.not_lt.mp hi),
      List.getElem?_eq_none (length_lines 0 calls ▸ Nat.not_lt.mp hi), Option.map_none]

end Layout

open Layout

/-! ### Balanced texts -/

/-- A text that calls of the writer have written, with the calls of its classes, is laid out in
blocks that are all opened and closed. -/
structure Balanced (calls : List Item) (classes : List (List Item)) (text : String) : Prop where
  /-- Every call that closes a block finds one open, so the writer's counter is never held at
  zero. It is the number of the blocks that were opened and not closed. -/
  matched : ∀ before after, calls = before ++ .closing :: after →
    0 < (Writer.empty.writeAll before).depth
      ∧ (Writer.empty.writeAll before).depth + closings before = openings before
  /-- At the end no block is open. -/
  closed : (Writer.empty.writeAll calls).depth = 0 ∧ closings calls = openings calls
  /-- The classes follow the first lines, with an empty line before each. Every class begins by
  opening a block, and where it begins no block is open. -/
  classes : ∃ first : List String,
    calls = first.map .line ++ classes.flatMap (fun c => .blank :: c)
      ∧ ∀ done c rest, classes = done ++ c :: rest → (∃ head body, c = .opening head :: body)
        ∧ (Writer.empty.writeAll
          (first.map .line ++ done.flatMap (fun c => .blank :: c) ++ [.blank])).depth = 0
  /-- The text is made of one line for each call, with a line feed behind it. A line that is not
  empty is indented by two spaces for each block that is open there. -/
  text_eq : text = String.join ((placedLines calls).map fun line => line ++ "\n")
  /-- Cut at its line feeds, the text falls into the pieces of these lines. A line with a line feed
  in it is cut there as well, and the piece behind it is not indented. -/
  pieces : Text.segments '\n' text.toList
    = (calls.mapIdx fun i call => placedPieces (calls.take i) call).flatten ++ [[]]
  /-- Where no call writes a line feed, the pieces are the lines. -/
  unbroken : (∀ call ∈ calls, '\n' ∉ call.content.toList) →
    Text.segments '\n' text.toList = (placedLines calls).map String.toList ++ [[]]

/-- Lines that are each ended by a line feed are cut there, and where they have one themselves. -/
theorem segments_lines (lines : List String) :
    Text.segments '\n' (String.join (lines.map fun line => line ++ "\n")).toList
      = lines.flatMap (fun line => Text.segments '\n' line.toList) ++ [[]] := by
  have htext : (String.join (lines.map fun line => line ++ "\n")).toList
      = (lines.map String.toList).flatMap fun part => part ++ ['\n'] := by
    rw [String.toList_join, List.flatMap_map, List.flatMap_map]
    simp only [String.toList_append]
    rfl
  rw [htext, Text.segments_flatMap_concat, List.flatMap_map]

/-- The line of a call falls into its pieces. The indentation has no line feed, so it stays with
the first of them. -/
theorem segments_placedLine (before : List Item) (call : Item) :
    Text.segments '\n' (placedLine before call).toList = placedPieces before call := by
  unfold placedLine placedPieces
  split
  · rfl
  · have hspaces : '\n' ∉ List.replicate (2 * openAt before call) ' ' := fun hmem =>
      absurd (List.eq_of_mem_replicate hmem) (by decide)
    rw [String.toList_append, String.toList_ofList, Text.segments_append_of_front hspaces]

/-- The pieces of all calls are those of their lines. -/
theorem mapIdx_placedPieces (calls : List Item) :
    (calls.mapIdx fun i call => placedPieces (calls.take i) call)
      = (placedLines calls).map fun line => Text.segments '\n' line.toList := by
  refine List.mapIdx_eq_iff.mpr fun i => ?_
  rw [List.getElem?_map, placedLines, List.getElem?_mapIdx, Option.map_map]
  simp only [Function.comp_def, segments_placedLine]

/-- A line is a single piece if the call writes no line feed. -/
theorem placedPieces_of_not_mem {call : Item} (h : '\n' ∉ call.content.toList)
    (before : List Item) : placedPieces before call = [(placedLine before call).toList] := by
  unfold placedLine placedPieces
  split
  · rfl
  · rw [Text.segments_of_not_mem h, String.toList_append, String.toList_ofList]
    rfl

/-- The calls of a file write a balanced text if each of its classes closes what it opens. -/
theorem balanced_of_closed {calls : List Item} {first : List String} {classes : List (List Item)}
    (hcalls : calls = first.map .line ++ classes.flatMap fun c => .blank :: c)
    (hclasses : ∀ c ∈ classes, Closed c ∧ ∃ head body, c = .opening head :: body) :
    Balanced calls classes (Writer.empty.writeAll calls).finish := by
  -- Also for the first few classes alone: the next one begins where they end.
  have hupto : ∀ done : List (List Item), (∀ c ∈ done, c ∈ classes) →
      Closed (first.map .line ++ done.flatMap fun c => .blank :: c) := fun done hdone =>
    (Closed.map closed_line first).append
      (.flatMap fun c hc => closed_blank.cons (hclasses c (hdone c hc)).1)
  have hclosed : Closed calls := hcalls ▸ hupto classes fun _ => id
  have htext : (Writer.empty.writeAll calls).finish
      = String.join ((placedLines calls).map fun line => line ++ "\n") := by
    rw [Writer.finish_writeAll, Layout.render, hclosed.lines_eq]
  have hpieces : Text.segments '\n' (Writer.empty.writeAll calls).finish.toList
      = (calls.mapIdx fun i call => placedPieces (calls.take i) call).flatten ++ [[]] := by
    rw [htext, segments_lines, List.flatMap_def, mapIdx_placedPieces]
  refine ⟨?matched, ?closed, ⟨first, hcalls, ?classes⟩, htext, hpieces, ?unbroken⟩
  case matched =>
    intro before after hsplit
    obtain ⟨depth, hbefore, hclosing⟩ := hclosed.exists_before hsplit
    obtain ⟨hdepth, hcounts⟩ := counts_of_blocksAfter? hbefore
    -- The brace is passed, so a block is open in front of it.
    have hopen : depth ≠ 0 := by
      rintro rfl
      exact absurd hclosing (by simp [blocksAfter?_cons, Item.blocksAfter?])
    rw [Writer.depth_writeAll, hdepth]
    omega
  case closed =>
    obtain ⟨hdepth, hcounts⟩ := counts_of_blocksAfter? (hclosed 0)
    exact ⟨(Writer.depth_writeAll calls).trans hdepth, by omega⟩
  case classes =>
    intro done c rest hsplit
    have hdone : ∀ c ∈ done, c ∈ classes := fun c hc => hsplit ▸ List.mem_append_left _ hc
    have hmem : c ∈ classes := hsplit ▸ List.mem_append_right _ List.mem_cons_self
    refine ⟨(hclasses c hmem).2, ?_⟩
    rw [Writer.depth_writeAll]
    exact (counts_of_blocksAfter? (((hupto done hdone).append closed_blank) 0)).1
  case unbroken =>
    intro hfeeds
    have hsingle : (calls.mapIdx fun i call => placedPieces (calls.take i) call)
        = (placedLines calls).map fun line => [line.toList] := by
      refine List.mapIdx_eq_iff.mpr fun i => ?_
      rw [List.getElem?_map, placedLines, List.getElem?_mapIdx, Option.map_map]
      refine Option.map_congr fun call hcall => ?_
      exact (placedPieces_of_not_mem (hfeeds call (List.mem_of_getElem? hcall)) _).symm
    rw [hpieces, hsingle, ← List.flatMap_def, ← List.map_eq_flatMap]

/-- Behind a line feed the text goes on without the indentation of the block. -/
example :
    (Writer.empty.writeAll [.opening "class A", .line "int a\nb;", .closing]).finish
      = "class A \x7b\n  int a\nb;\n\x7d\n" := by
  decide

/-! ### The functions of the renderer -/

variable (p : Plan) (l : ListenerTarget)

/-- A statement closes the block that it opens, if it opens one. -/
theorem Stmt.closed_layout (s : Stmt) : Closed s.layout := by
  induction s with
  | declare type name value => exact closed_line _
  | assign target value => exact closed_line _
  | run action => exact closed_line _
  | giveBack value => exact closed_line _
  | unlessNull value body ih => exact ih.enclosed _

/-- So do statements that follow each other. -/
theorem closed_statements (statements : List Stmt) : Closed (statements.flatMap Stmt.layout) :=
  .flatMap fun s _ => s.closed_layout

/-- The block around a call is closed right after the call; the ids that have no view, and the
listeners that are not optional, open none. -/
theorem closed_registrationCalls (method : String) (argument : Expr) :
    Closed (registrationCalls p l method argument) := by
  refine .flatMap fun id _ => ?_
  split
  · exact closed_nil
  · dsimp only
    split
    · exact (closed_line _).enclosed _
    · exact closed_line _

/-- The method that binds is closed behind the last listener that it attaches. -/
theorem closed_bindCalls : Closed (bindCalls p) := by
  have hattach := Closed.flatMap fun l (_ : l ∈ p.listeners) =>
    closed_registrationCalls p l l.listener.spec.setter (.own l.field)
  exact (closed_line _).cons (((closed_statements (preparation p)).append hattach).enclosed _)

/-- The method that unbinds is closed behind the last statement that clears a field. -/
theorem closed_unbindCalls : Closed (unbindCalls p) := by
  have hdetach := Closed.flatMap fun l (_ : l ∈ p.listeners) =>
    closed_registrationCalls p l l.listener.spec.unsetter (detachArgument l)
  exact (closed_line _).cons ((hdetach.append (closed_statements (clearance p))).enclosed _)

/-- The binding class is closed behind its two methods. -/
theorem closed_bindingClassCalls : Closed (bindingClassCalls p) := by
  have hfields : Closed (fieldCalls p) := .map (fun f => closed_line _) _
  have hbind := (hfields.append closed_blank).append (closed_bindCalls p)
  exact ((hbind.append closed_blank).append (closed_unbindCalls p)).enclosed _

/-- A callback is closed behind the call of the method. -/
theorem closed_callbackCalls : Closed (callbackCalls l) :=
  (closed_line _).cons ((closed_statements (callbackStatements l)).enclosed _)

/-- A method that does nothing is closed as well, with and without a statement in it. -/
theorem closed_stubCalls (m : Method) : Closed (stubCalls m) :=
  (closed_line _).cons ((closed_statements (stubStatements m)).enclosed _)

/-- The class of a listener is closed behind the last of its methods. The constructor is opened and
closed in front of them. -/
theorem closed_listenerClassCalls (target : TypeName) : Closed (listenerClassCalls target l) := by
  have hfront (field head text : String) :
      Closed [.line field, .blank, .opening head, .line text, .closing, .blank] :=
    (closed_line field).cons
      (closed_blank.cons (((closed_line text).enclosed head).append closed_blank))
  have hstubs : Closed (l.listener.stubs.flatMap fun m => .blank :: stubCalls m) :=
    .flatMap fun m _ => closed_blank.cons (closed_stubCalls m)
  exact (((hfront _ _ _).append (closed_callbackCalls l)).append hstubs).enclosed _

/-- The factory opens two blocks before its entries. Behind them it closes both, and opens and
closes two more on the way. -/
theorem closed_factoryClassCalls (plans : List Plan) : Closed (factoryClassCalls plans) := by
  -- The calls on either side of the entries are not closed for themselves, so the count is taken
  -- over the three parts.
  intro depth
  have hentries := Closed.flatMap fun p (_ : p ∈ plans) => (enterBinding p).closed_layout
  rw [factoryClassCalls, blocksAfter?_append, blocksAfter?_append]
  show ((some (depth + 2)).bind fun inner => blocksAfter? inner _).bind _ = some depth
  rw [Option.bind_some, hentries, Option.bind_some]
  rfl

/-! ### Sources -/

/-- The lines of a file before its classes. -/
def frontLines (package? : Option String) : List String :=
  header :: package?.toList.map fun package => "package " ++ package ++ ";"

/-- They are written first, and open no block. -/
theorem map_line_frontLines (package? : Option String) :
    (frontLines package?).map .line = [.line header] ++ packageCalls package? := by
  rw [frontLines, packageCalls, List.map_cons, List.map_map]
  rfl

/-- The classes of a plan are written behind these lines. -/
theorem bindingCalls_eq_classes :
    bindingCalls p = (frontLines p.target.package?).map .line
      ++ (bindingClassCalls p :: p.listeners.map (listenerClassCalls p.target)).flatMap
        fun c => .blank :: c := by
  rw [bindingCalls, map_line_frontLines, List.flatMap_cons, List.flatMap_map]
  simp only [List.append_assoc, List.cons_append, List.nil_append]

/-- The factory is written behind the same lines, for the package of its own. -/
theorem factoryCalls_eq_class (plans : List Plan) :
    factoryCalls plans = (frontLines factoryType.package?).map .line
      ++ [factoryClassCalls plans].flatMap fun c => .blank :: c := by
  rw [factoryCalls, map_line_frontLines, List.flatMap_cons, List.flatMap_nil, List.append_nil]
  simp only [List.append_assoc, List.cons_append, List.nil_append]

/-- The sources that are written are balanced, for every plan, whether it was built or not, and
for any list of plans. The classes of a plan's source are the binding class and one class for each
listener; the factory is the only class of its own source.

The binding class and its methods are opened and closed in functions of their own, around the
loops over views, fields, listeners and ids. A view that is not found, a listener that is not
optional and a method that returns nothing leave calls out, but never one of a pair. -/
theorem balanced_sources (p : Plan) (plans : List Plan) :
    Balanced (bindingCalls p)
        (bindingClassCalls p :: p.listeners.map (listenerClassCalls p.target)) (render p)
      ∧ Balanced (factoryCalls plans) [factoryClassCalls plans] (renderFactory plans) := by
  constructor
  · refine balanced_of_closed (bindingCalls_eq_classes p) fun c hc => ?_
    rcases List.mem_cons.mp hc with rfl | hc
    · exact ⟨closed_bindingClassCalls p, _, _, rfl⟩
    · obtain ⟨l, -, rfl⟩ := List.mem_map.mp hc
      exact ⟨closed_listenerClassCalls l p.target, _, _, rfl⟩
  · refine balanced_of_closed (factoryCalls_eq_class plans) fun c hc => ?_
    rw [List.mem_singleton.mp hc]
    exact ⟨closed_factoryClassCalls plans, _, _, rfl⟩

end BindingCompiler.Source
