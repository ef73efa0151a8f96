import NoteTemplate.Proofs.Grammar

/-!
# Parsing accepts the grammar and loses nothing

The state of a parser spells the tokens that were read: those of the open groups with their
finished branches, then those of the body being read. Every step adds the spelling of its token
and keeps all bodies built (`ParserState.Reads.step`), so a tree that comes out spells the whole
text. In the other direction, the parser passes over every sequence of the grammar and ends in
the state it started in, but for nodes of the body being read (`Generates.passes`).
-/

namespace NoteTemplate.Template

/-- The tokens of an open group before the body that is being read. -/
def Opened.spelled : Opened → List Spelling
  | .branch finished condition =>
    Node.spelledBranches .choice (finished.reverse ++ [(condition, [])])
  | .otherwise finished =>
    Node.spelledBranches .choice finished.reverse ++ [⟨.otherwise, none⟩]
  | .each path => [⟨.each path, none⟩]
  | .block name => [⟨.block name, none⟩]

/-- A branch of a choice is spelled by its tag and its body once the body is finished. -/
theorem Opened.spelled_finish (finished : List (String × List Node)) (condition : String)
    (body : List Node) : Node.spelledBranches .choice ((condition, body) :: finished).reverse =
      (Opened.branch finished condition).spelled ++ Node.spelledAll body := by
  rw [List.reverse_cons, Node.spelledBranches_last, Opened.spelled]

/-- The finished branches of an open group are built. The last branch of a choice is not the
only one. -/
def Opened.BranchesBuilt (depth : Nat) : Opened → Prop
  | .branch finished _ => Template.BranchesBuilt depth finished
  | .otherwise finished => finished ≠ [] ∧ Template.BranchesBuilt depth finished
  | .each _ | .block _ => True

/-- A body that is finished joins the finished branches of its choice. -/
theorem BranchesBuilt.finish {depth : Nat} {finished : List (String × List Node)}
    (built : BranchesBuilt depth finished) (condition : String) {body : List Node}
    (last : Built depth body) : BranchesBuilt depth ((condition, body) :: finished) :=
  List.forall_mem_cons.2 ⟨last, built⟩

/-- The tokens that were read up to the body of the innermost group. -/
def spelledLevels : List Level → List Spelling
  | [] => []
  | level :: rest =>
    spelledLevels rest ++ Node.spelledAll level.before.reverse ++ level.opened.spelled

/-- Everything that was finished in open groups is built, with as much room as the groups
around it leave. -/
def LevelsBuilt : List Level → Prop
  | [] => True
  | level :: rest =>
    rest.length < nestingLimit ∧ LevelsBuilt rest ∧
      Built (nestingLimit - rest.length) level.before.reverse ∧
      level.opened.BranchesBuilt (nestingLimit - (rest.length + 1))

/-- A parser between two tokens has read some tokens, and built what can be built of them. -/
structure ParserState.Reads (state : ParserState) (read : List Spelling) : Prop where
  /-- The state spells the tokens. -/
  spelled : spelledLevels state.levels ++ Node.spelledAll state.body = read
  /-- What the open groups hold is built. -/
  levels : LevelsBuilt state.levels
  /-- The body being read is built. -/
  body : Built (nestingLimit - state.levels.length) state.body

namespace ParserState

variable {state next : ParserState} {read : List Spelling} {level : Level} {rest : List Level}

/-- A parser starts with nothing read. -/
theorem reads_start : ({} : ParserState).Reads [] := ⟨rfl, trivial, .nil⟩

/-- A node that one token stands for joins the body being read. -/
theorem Reads.add (reads : state.Reads read) {node : Node} {spelling : Spelling}
    (built : ∀ depth, Built depth [node]) (spells : node.spelled = [spelling]) :
    (state.add node).Reads (read ++ [spelling]) where
  spelled := by
    simp only [ParserState.add, ParserState.body, List.reverse_cons, Node.spelledAll_append,
      Node.spelledAll_singleton, spells, ← List.append_assoc]
    rw [← reads.spelled, ParserState.body]
  levels := reads.levels
  body := by
    simp only [ParserState.add, ParserState.body, List.reverse_cons]
    exact reads.body.append (built _)

/-- Opening a group spells its token. -/
theorem Reads.enter (reads : state.Reads read) {opened : Opened} {line : Nat}
    {spelling : Spelling} (spells : opened.spelled = [spelling])
    (empty : ∀ depth, opened.BranchesBuilt depth) (entered : state.enter opened line = .ok next) :
    next.Reads (read ++ [spelling]) := by
  unfold ParserState.enter at entered
  split at entered
  · rename_i room
    obtain rfl := Except.ok.inj entered
    refine ⟨?_, ⟨room, reads.levels, reads.body, empty _⟩, .nil⟩
    rw [← reads.spelled, spelledLevels, spells, ParserState.body, ParserState.body]
    simp [Node.spelledAll]
  · cases entered

/-- Moving on to the next branch of a choice finishes a body. -/
theorem Reads.move (reads : state.Reads read) (top : state.levels = level :: rest)
    {opened : Opened} {spelling : Spelling}
    (spells : opened.spelled =
      level.opened.spelled ++ Node.spelledAll state.body ++ [spelling])
    (built : ∀ depth, level.opened.BranchesBuilt depth → Built depth state.body →
      opened.BranchesBuilt depth) :
    ({ levels := { level with opened := opened } :: rest, nodes := [] } : ParserState).Reads
      (read ++ [spelling]) := by
  obtain ⟨levels, nodes⟩ := state
  obtain rfl : levels = level :: rest := top
  obtain ⟨room, outer, before, finished⟩ := reads.levels
  refine ⟨?_, ⟨room, outer, before, built _ finished reads.body⟩, .nil⟩
  rw [← reads.spelled]
  simp [spelledLevels, spells, ParserState.body, Node.spelledAll]

/-- Closing a group makes a node of it. -/
theorem Reads.close (reads : state.Reads read) (top : state.levels = level :: rest)
    {node : Node} {spelling : Spelling}
    (spells : node.spelled =
      level.opened.spelled ++ Node.spelledAll state.body ++ [spelling])
    (built : ∀ depth, level.opened.BranchesBuilt depth → Built depth state.body →
      Built (depth + 1) [node]) :
    ({ levels := rest, nodes := node :: level.before } : ParserState).Reads
      (read ++ [spelling]) := by
  obtain ⟨levels, nodes⟩ := state
  obtain rfl : levels = level :: rest := top
  obtain ⟨room, outer, before, finished⟩ := reads.levels
  have group := built _ finished reads.body
  have deeper : nestingLimit - (rest.length + 1) + 1 = nestingLimit - rest.length := by omega
  rw [deeper] at group
  refine ⟨?_, outer, ?_⟩
  · rw [← reads.spelled]
    simp [spelledLevels, spells, ParserState.body, Node.spelledAll_append,
      Node.spelledAll_singleton]
  · rw [ParserState.body, List.reverse_cons]
    exact before.append group

/-- Continuing or closing the innermost group spells its token. -/
theorem Reads.leave (reads : state.Reads read) {token : Token} {line : Nat}
    (left : state.leave token line = .ok next) : next.Reads (read ++ [⟨token, none⟩]) := by
  unfold ParserState.leave at left
  split at left
  · cases left
  · rename_i level rest top
    split at left
    -- A choice goes on with another branch, with its last one, or ends behind any branch.
    · rename_i finished condition following opened
      obtain rfl := Except.ok.inj left
      refine reads.move top ?_ fun depth built body => ?_
      · rw [opened, Opened.spelled, Node.spelledBranches_next _ (by simp), Opened.spelled_finish]
      · rw [opened] at built
        exact built.finish condition body
    · rename_i finished condition opened
      obtain rfl := Except.ok.inj left
      refine reads.move top ?_ fun depth built body => ?_
      · rw [opened, ← Opened.spelled_finish, Opened.spelled]
      · rw [opened] at built
        exact ⟨List.cons_ne_nil _ _, built.finish condition body⟩
    · rename_i finished condition opened
      obtain rfl := Except.ok.inj left
      refine reads.close top ?_ fun depth built body => ?_
      · rw [opened, Node.spelled, Opened.spelled_finish]
      · rw [opened] at built
        have branches := built.finish condition body
        refine Built.choice (by simp) (fun branch member => ?_) (by simp)
        exact branches branch (List.mem_reverse.1 member)
    · rename_i finished opened
      obtain rfl := Except.ok.inj left
      refine reads.close top ?_ fun depth built body => ?_
      · rw [opened, Node.spelled, Opened.spelled]
        simp only [List.append_assoc, List.cons_append, List.nil_append]
      · rw [opened] at built
        obtain ⟨filled, branches⟩ := built
        refine Built.choice (by simpa using filled) (fun branch member => ?_) ?_
        · exact branches branch (List.mem_reverse.1 member)
        · exact fun _ same => Option.some.inj same ▸ body
    -- An iteration and a block end with their only body.
    · rename_i path opened
      obtain rfl := Except.ok.inj left
      refine reads.close top ?_ fun depth _ body => body.each path
      rw [opened, Node.spelled, Opened.spelled]
      rfl
    · rename_i name opened
      obtain rfl := Except.ok.inj left
      refine reads.close top ?_ fun depth _ body => body.block name
      rw [opened, Node.spelled, Opened.spelled]
      rfl
    · cases left
    · cases left

/-- Every step spells its token. -/
theorem Reads.step (reads : state.Reads read) {placed : Placed}
    (stepped : state.step placed = .ok next) : next.Reads (read ++ [placed.spelling]) := by
  obtain ⟨token, line⟩ := placed
  cases token with
  | text _ | «variable» _ | call _ _ | inclusion _ | parent _ | unknown _ =>
    obtain rfl := Except.ok.inj stepped
    exact reads.add (fun _ => .single rfl rfl rfl rfl) rfl
  | choice condition =>
    have empty : ∀ depth, (Opened.branch [] condition).BranchesBuilt depth :=
      fun _ _ member => nomatch member
    exact reads.enter rfl empty stepped
  | each path =>
    have empty : ∀ depth, (Opened.each path).BranchesBuilt depth := fun _ => trivial
    exact reads.enter rfl empty stepped
  | block name =>
    have empty : ∀ depth, (Opened.block name).BranchesBuilt depth := fun _ => trivial
    exact reads.enter rfl empty stepped
  | branch _ | otherwise | endChoice | endEach | endBlock => exact reads.leave stepped

/-- A text that is read to its end has a tree that is built and spells what was read. -/
theorem Reads.parseFrom {placed : List Placed} {nodes : List Node} (reads : state.Reads read)
    (parsed : parseFrom state placed = .ok nodes) :
    Built nestingLimit nodes ∧ Node.spelledAll nodes = read ++ placed.map Placed.spelling := by
  induction placed generalizing state read with
  | nil =>
    obtain ⟨levels, reversed⟩ := state
    cases levels with
    | nil =>
      obtain rfl := Except.ok.inj parsed
      exact ⟨reads.body, by simpa [spelledLevels] using reads.spelled⟩
    | cons level rest => cases parsed
  | cons first rest ih =>
    cases stepped : state.step first with
    | ok next =>
      rw [parseFrom_ok rest stepped] at parsed
      obtain ⟨built, spelled⟩ := ih (reads.step stepped) parsed
      exact ⟨built, by rw [spelled, List.map_cons, List.append_assoc, List.singleton_append]⟩
    | error error =>
      rw [parseFrom_error rest stepped] at parsed
      cases parsed

/-- A token that stands for itself adds a node. -/
theorem step_of_isSingle (state : ParserState) {placed : Placed}
    (alone : placed.token.isSingle = true) : ∃ node, state.step placed = .ok (state.add node) := by
  obtain ⟨token, line⟩ := placed
  cases token <;> first | exact ⟨_, rfl⟩ | cases alone

/-- A group can be opened while there is room. -/
theorem enter_of_room {state : ParserState} (room : state.levels.length < nestingLimit)
    (opened : Opened) (line : Nat) : state.enter opened line =
      .ok { levels := ⟨opened, line, state.nodes⟩ :: state.levels, nodes := [] } :=
  if_pos room

end ParserState

/-- What a sequence of the grammar does to a parser, whatever follows it: a body adds nodes to
the body being read, and what follows the first body of a choice closes the choice. -/
def Passes : Sequence → Nat → List Token → Prop
  | .body, depth, tokens =>
    ∀ (placed : List Placed) (levels : List Level) (nodes : List Node),
      placed.map Placed.token = tokens → levels.length + depth ≤ nestingLimit →
      ∃ more, ∀ rest, parseFrom ⟨levels, nodes⟩ (placed ++ rest) = parseFrom ⟨levels, more⟩ rest
  | .branches, depth, tokens =>
    ∀ (placed : List Placed) (finished : List (String × List Node)) (condition : String)
      (line : Nat) (before : List Node) (levels : List Level) (nodes : List Node),
      placed.map Placed.token = tokens → levels.length + (depth + 1) ≤ nestingLimit →
      ∃ more, ∀ rest,
        parseFrom ⟨⟨.branch finished condition, line, before⟩ :: levels, nodes⟩ (placed ++ rest) =
          parseFrom ⟨levels, more⟩ rest

/-- The parser passes over a group with one body, and what follows it. -/
theorem passes_group {depth : Nat} {opening closing : Token} {body rest : List Token}
    {opened : Opened} (node : List Node → Node)
    (opens : ∀ (state : ParserState) (line : Nat),
      state.step ⟨opening, line⟩ = state.enter opened line)
    (closes : ∀ (line last : Nat) (before nodes : List Node) (levels : List Level),
      ParserState.step ⟨⟨opened, line, before⟩ :: levels, nodes⟩ ⟨closing, last⟩ =
        .ok ⟨levels, node nodes.reverse :: before⟩)
    (inner : Passes .body depth body) (later : Passes .body (depth + 1) rest) :
    Passes .body (depth + 1) (opening :: (body ++ closing :: rest)) := by
  intro placed levels nodes whole room
  obtain ⟨⟨_, line⟩, placed, rfl, rfl, behind⟩ := List.map_eq_cons_iff.1 whole
  obtain ⟨first, placed, rfl, firstSame, behind⟩ := List.map_eq_append_iff.1 behind
  obtain ⟨⟨_, last⟩, second, rfl, rfl, secondSame⟩ := List.map_eq_cons_iff.1 behind
  have free : levels.length < nestingLimit := by omega
  have stepped := (opens ⟨levels, nodes⟩ line).trans (ParserState.enter_of_room free opened line)
  have inside : (⟨opened, line, nodes⟩ :: levels).length + depth ≤ nestingLimit := by
    rw [List.length_cons]
    omega
  obtain ⟨content, passesFirst⟩ := inner first _ [] firstSame inside
  have closed := closes line last nodes content levels
  obtain ⟨more, passesSecond⟩ := later second levels _ secondSame room
  refine ⟨more, fun rest => ?_⟩
  rw [List.cons_append, parseFrom_ok _ stepped, List.append_assoc, passesFirst, List.cons_append,
    parseFrom_ok _ closed, passesSecond]

/-- The parser passes over every sequence of the grammar for which there is room. -/
theorem Generates.passes {sequence : Sequence} {depth : Nat} {tokens : List Token}
    (generated : Generates sequence depth tokens) : Passes sequence depth tokens := by
  induction generated with
  | nil =>
    intro placed levels nodes whole _
    obtain rfl := List.map_eq_nil_iff.1 whole
    exact ⟨nodes, fun _ => rfl⟩
  | single alone _ later =>
    intro placed levels nodes whole room
    obtain ⟨first, placed, rfl, rfl, behind⟩ := List.map_eq_cons_iff.1 whole
    obtain ⟨node, stepped⟩ := ParserState.step_of_isSingle ⟨levels, nodes⟩ alone
    obtain ⟨more, passes⟩ := later placed levels (node :: nodes) behind room
    refine ⟨more, fun rest => ?_⟩
    rw [List.cons_append, parseFrom_ok _ stepped]
    exact passes rest
  | each _ _ inner later =>
    exact passes_group (.each _) (fun _ _ => rfl) (fun _ _ _ _ _ => rfl) inner later
  | block _ _ inner later =>
    exact passes_group (.block _) (fun _ _ => rfl) (fun _ _ _ _ _ => rfl) inner later
  | @choice depth condition _ _ _ _ _ _ inner others later =>
    intro placed levels nodes whole room
    obtain ⟨⟨_, line⟩, placed, rfl, rfl, behind⟩ := List.map_eq_cons_iff.1 whole
    obtain ⟨first, placed, rfl, firstSame, behind⟩ := List.map_eq_append_iff.1 behind
    obtain ⟨second, third, rfl, secondSame, thirdSame⟩ := List.map_eq_append_iff.1 behind
    have free : levels.length < nestingLimit := by omega
    have stepped : ParserState.step ⟨levels, nodes⟩ ⟨.choice condition, line⟩ = _ :=
      ParserState.enter_of_room free (.branch [] condition) line
    have inside : (⟨.branch [] condition, line, nodes⟩ :: levels).length + depth ≤
        nestingLimit := by
      rw [List.length_cons]
      omega
    obtain ⟨content, passesFirst⟩ := inner first _ [] firstSame inside
    obtain ⟨closed, passesSecond⟩ := others second [] condition line nodes levels content
      secondSame room
    obtain ⟨more, passesThird⟩ := later third levels closed thirdSame room
    refine ⟨more, fun rest => ?_⟩
    rw [List.cons_append, parseFrom_ok _ stepped, List.append_assoc, passesFirst,
      List.append_assoc, passesSecond, passesThird]
  | @branch depth next _ _ _ _ inner others =>
    intro placed finished condition line before levels nodes whole room
    obtain ⟨⟨_, last⟩, placed, rfl, rfl, behind⟩ := List.map_eq_cons_iff.1 whole
    obtain ⟨first, second, rfl, firstSame, secondSame⟩ := List.map_eq_append_iff.1 behind
    have moved : ParserState.step ⟨⟨.branch finished condition, line, before⟩ :: levels, nodes⟩
        ⟨.branch next, last⟩ =
        .ok ⟨⟨.branch ((condition, nodes.reverse) :: finished) next, line, before⟩ :: levels,
          []⟩ := rfl
    obtain ⟨content, passesFirst⟩ := inner first
      (⟨.branch ((condition, nodes.reverse) :: finished) next, line, before⟩ :: levels) [] firstSame
      (by rw [List.length_cons]; omega)
    obtain ⟨more, passesSecond⟩ := others second _ next line before levels content secondSame room
    refine ⟨more, fun rest => ?_⟩
    rw [List.cons_append, parseFrom_ok _ moved, List.append_assoc, passesFirst, passesSecond]
  | @otherwise depth _ _ inner =>
    intro placed finished condition line before levels nodes whole room
    obtain ⟨⟨_, last⟩, placed, rfl, rfl, behind⟩ := List.map_eq_cons_iff.1 whole
    obtain ⟨first, second, rfl, firstSame, secondSame⟩ := List.map_eq_append_iff.1 behind
    obtain ⟨⟨_, final⟩, empty, rfl, rfl, ended⟩ := List.map_eq_cons_iff.1 secondSame
    obtain rfl := List.map_eq_nil_iff.1 ended
    have moved : ParserState.step ⟨⟨.branch finished condition, line, before⟩ :: levels, nodes⟩
        ⟨.otherwise, last⟩ =
        .ok ⟨⟨.otherwise ((condition, nodes.reverse) :: finished), line, before⟩ :: levels, []⟩ :=
      rfl
    obtain ⟨content, passes⟩ := inner first
      (⟨.otherwise ((condition, nodes.reverse) :: finished), line, before⟩ :: levels) [] firstSame
      (by rw [List.length_cons]; omega)
    refine ⟨.choice ((condition, nodes.reverse) :: finished).reverse (some content.reverse) ::
      before, fun rest => ?_⟩
    rw [List.cons_append, parseFrom_ok _ moved, List.append_assoc, passes]
    exact parseFrom_ok rest rfl
  | close =>
    intro placed finished condition line before levels nodes whole _
    obtain ⟨⟨_, last⟩, empty, rfl, rfl, ended⟩ := List.map_eq_cons_iff.1 whole
    obtain rfl := List.map_eq_nil_iff.1 ended
    exact ⟨.choice ((condition, nodes.reverse) :: finished).reverse none :: before,
      fun rest => parseFrom_ok rest rfl⟩

/-- A text is parsed exactly if its tokens are those of a body with groups nested no deeper than
allowed. The tree then spells exactly the tokens of the text, with the lines of calls, includes
and unknown tags; it is no deeper than allowed; a visit of the whole tree meets as many nodes as
there are tokens that do not end a body; and no kind of group is opened and closed unequally
often. -/
theorem parse_iff_generates (text : String) :
    ((∃ nodes, parse text = .ok nodes) ↔
      Generates .body nestingLimit ((tokens text).map Placed.token)) ∧
    ∀ nodes, parse text = .ok nodes →
      Node.spelledAll nodes = (tokens text).map Placed.spelling ∧
      Node.depthOfAll nodes ≤ nestingLimit ∧
      (Node.flattenAll nodes).length = (tokens text).countP (!·.token.endsBody) ∧
      unbalanced text = [] := by
  have kept : Spelling.token ∘ Placed.spelling = Placed.token := funext Placed.spelling_token
  have read := fun nodes (parsed : parse text = .ok nodes) =>
    ParserState.reads_start.parseFrom parsed
  have generates : ∀ nodes, parse text = .ok nodes →
      Generates .body nestingLimit ((tokens text).map Placed.token) := by
    intro nodes parsed
    obtain ⟨built, spelled⟩ := read nodes parsed
    have generated := built.generated
    rwa [spelled, List.nil_append, List.map_map, kept] at generated
  refine ⟨⟨fun ⟨nodes, parsed⟩ => generates nodes parsed, fun generated => ?_⟩,
    fun nodes parsed => ?_⟩
  · obtain ⟨nodes, passes⟩ := generated.passes (tokens text) [] [] rfl (Nat.le_of_eq (by simp))
    have ended := passes []
    rw [List.append_nil] at ended
    exact ⟨nodes.reverse, ended⟩
  · obtain ⟨built, spelled⟩ := read nodes parsed
    rw [List.nil_append] at spelled
    refine ⟨spelled, built.shallow, ?_, ?_⟩
    · rw [built.visited, spelled, List.countP_map]
      exact List.countP_congr fun placed _ => by simp [Placed.spelling_token]
    · have balanced := (generates nodes parsed).closes_eq_opens
      simp only [reduceCtorEq, false_and, if_false, Nat.add_zero, List.countP_map] at balanced
      have counts : ∀ group, groupCounts group (tokens text) =
          ((tokens text).countP (·.token.opens? = some group),
            (tokens text).countP (·.token.opens? = some group)) := by
        intro group
        exact Prod.ext rfl (balanced group)
      simp [unbalanced, counts]

/-- A text with an iteration inside a choice and an unknown tag on its second line. -/
def taskList : String :=
  tagText "#if tasks" ++ tagText "#each tasks" ++ tagText "title" ++ tagText "/each" ++ "\n" ++
    tagText "!" ++ tagText "else" ++ "nothing" ++ tagText "/if"

/-- The text with an iteration inside a choice is parsed, and its tree loses nothing. -/
theorem taskList_parse : ∃ nodes, parse taskList = .ok nodes ∧
    Node.spelledAll nodes = (tokens taskList).map Placed.spelling ∧
    Node.depthOfAll nodes ≤ nestingLimit ∧
    (Node.flattenAll nodes).length = (tokens taskList).countP (!·.token.endsBody) ∧
    unbalanced taskList = [] := by
  have accepted : (parse taskList).isOk = true := by decide +kernel
  cases parsed : parse taskList with
  | ok nodes => exact ⟨nodes, rfl, (parse_iff_generates taskList).2 nodes parsed⟩
  | error error =>
    rw [parsed] at accepted
    cases accepted

end NoteTemplate.Template
