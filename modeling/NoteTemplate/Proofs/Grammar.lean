import NoteTemplate.Template.Parser

/-!
# The grammar of templates

A template is a sequence of tokens that stand for themselves and of groups: choices with their
branches, iterations and named blocks. `Generates` says by rules which tokens make up such a
sequence, and how deep its groups are nested. A tree is spelled by tokens as well; `Built` says
that it spells a sequence of the grammar, is no deeper than allowed, and has a node for every
token but those that end a body. Groups are built from what is built (`Built.choice`,
`Built.each`, `Built.block`).
-/

namespace NoteTemplate.Template

/-- A token that stands for itself: it belongs to no group. -/
def Token.isSingle : Token → Bool
  | .text _ | .variable _ | .call _ _ | .inclusion _ | .parent _ | .unknown _ => true
  | _ => false

/-- A token that ends the body before it: it continues or closes a group. -/
def Token.endsBody : Token → Bool
  | .branch _ | .otherwise | .endChoice | .endEach | .endBlock => true
  | _ => false

/-- A token that stands for itself opens, closes and continues nothing. -/
theorem Token.groupless_of_isSingle {token : Token} (alone : token.isSingle = true) :
    token.opens? = none ∧ token.closes? = none ∧ token.endsBody = false := by
  cases token <;> first | exact ⟨rfl, rfl, rfl⟩ | cases alone

/-- The two kinds of sequences of tokens in the grammar. -/
inductive Sequence where
  /-- Tokens that stand for themselves, and whole groups. -/
  | body
  /-- What follows the first body of a choice, up to the end of the choice. -/
  | branches
deriving DecidableEq

/-- The tokens that make up a sequence with groups nested at most `depth` deep. -/
inductive Generates : Sequence → Nat → List Token → Prop where
  /-- Nothing is a body. -/
  | nil {depth : Nat} : Generates .body depth []
  /-- A token that stands for itself, and another body. -/
  | single {depth : Nat} {token : Token} {rest : List Token} (alone : token.isSingle = true)
      (later : Generates .body depth rest) : Generates .body depth (token :: rest)
  /-- A choice, and another body. -/
  | choice {depth : Nat} {condition : String} {body more rest : List Token}
      (first : Generates .body depth body) (others : Generates .branches depth more)
      (later : Generates .body (depth + 1) rest) :
      Generates .body (depth + 1) (.choice condition :: (body ++ (more ++ rest)))
  /-- An iteration, and another body. -/
  | each {depth : Nat} {path : String} {body rest : List Token}
      (inner : Generates .body depth body) (later : Generates .body (depth + 1) rest) :
      Generates .body (depth + 1) (.each path :: (body ++ .endEach :: rest))
  /-- A named block, and another body. -/
  | block {depth : Nat} {name : String} {body rest : List Token}
      (inner : Generates .body depth body) (later : Generates .body (depth + 1) rest) :
      Generates .body (depth + 1) (.block name :: (body ++ .endBlock :: rest))
  /-- One more branch of a choice, and what follows it. -/
  | branch {depth : Nat} {condition : String} {body more : List Token}
      (inner : Generates .body depth body) (others : Generates .branches depth more) :
      Generates .branches depth (.branch condition :: (body ++ more))
  /-- The branch that is taken when no other is, and the end of the choice. -/
  | otherwise {depth : Nat} {body : List Token} (inner : Generates .body depth body) :
      Generates .branches depth (.otherwise :: (body ++ [.endChoice]))
  /-- The end of a choice. -/
  | close {depth : Nat} : Generates .branches depth [.endChoice]

namespace Generates

/-- Two bodies behind each other are a body. -/
theorem append {depth : Nat} {first second : List Token} (one : Generates .body depth first)
    (two : Generates .body depth second) : Generates .body depth (first ++ second) := by
  generalize same : Sequence.body = sequence at one
  induction one with
  | nil => exact two
  | single alone _ ih => exact .single alone (ih two same)
  | choice first others _ _ _ ih =>
    simpa only [List.cons_append, List.append_assoc] using .choice first others (ih two same)
  | each inner _ _ ih =>
    simpa only [List.cons_append, List.append_assoc] using .each inner (ih two same)
  | block inner _ _ ih =>
    simpa only [List.cons_append, List.append_assoc] using .block inner (ih two same)
  | _ => cases same

/-- A sequence closes every kind of group as often as it opens it, except that what follows the
first body of a choice closes that choice too. -/
theorem closes_eq_opens {sequence : Sequence} {depth : Nat} {tokens : List Token}
    (generated : Generates sequence depth tokens) (group : Group) :
    tokens.countP (·.closes? = some group) = tokens.countP (·.opens? = some group) +
      if sequence = .branches ∧ group = .choice then 1 else 0 := by
  induction generated with
  | nil => rfl
  | @single depth token rest alone later ih =>
    obtain ⟨opens, closes, _⟩ := Token.groupless_of_isSingle alone
    simpa [opens, closes] using ih
  | choice _ _ _ body others later =>
    cases group <;> simp_all [Token.closes?, Token.opens?]
    omega
  | each _ _ body later =>
    cases group <;> simp_all [Token.closes?, Token.opens?]
    omega
  | block _ _ body later =>
    cases group <;> simp_all [Token.closes?, Token.opens?]
    omega
  | branch _ _ body others =>
    cases group <;> simp_all [Token.closes?, Token.opens?]
    omega
  | otherwise _ body => cases group <;> simp_all [Token.closes?, Token.opens?]
  | close => cases group <;> rfl

end Generates

/-- A token with its line, where a tree keeps the line. -/
structure Spelling where
  /-- The token. -/
  token : Token
  /-- The line that it starts on. -/
  line? : Option Nat
deriving Repr, DecidableEq

/-- What a tree keeps of a token: the lines of calls, includes and unknown tags only. -/
def Placed.spelling (placed : Placed) : Spelling :=
  match placed.token with
  | .call _ _ | .inclusion _ | .unknown _ => ⟨placed.token, some placed.line⟩
  | token => ⟨token, none⟩

/-- Nothing but the line can be lost of a token. -/
theorem Placed.spelling_token (placed : Placed) : placed.spelling.token = placed.token := by
  unfold Placed.spelling
  split <;> rfl

namespace Node

mutual

/-- The tokens that a node was read from. -/
def spelled : Node → List Spelling
  | .text content => [⟨.text content, none⟩]
  | .variable path => [⟨.variable path, none⟩]
  | .call name arguments line => [⟨.call name arguments, some line⟩]
  | .choice branches none => spelledBranches .choice branches ++ [⟨.endChoice, none⟩]
  | .choice branches (some body) =>
    spelledBranches .choice branches ++ ⟨.otherwise, none⟩ ::
      (spelledAll body ++ [⟨.endChoice, none⟩])
  | .each path body => ⟨.each path, none⟩ :: (spelledAll body ++ [⟨.endEach, none⟩])
  | .block name body => ⟨.block name, none⟩ :: (spelledAll body ++ [⟨.endBlock, none⟩])
  | .inclusion name line => [⟨.inclusion name, some line⟩]
  | .parent name => [⟨.parent name, none⟩]
  | .unknown tag line => [⟨.unknown tag, some line⟩]

/-- The tokens that a body was read from. -/
def spelledAll : List Node → List Spelling
  | [] => []
  | node :: rest => spelled node ++ spelledAll rest

/-- The tokens that some branches were read from; `opening` is the token in front of the first
one. -/
def spelledBranches (opening : String → Token) : List (String × List Node) → List Spelling
  | [] => []
  | (condition, body) :: rest =>
    ⟨opening condition, none⟩ :: (spelledAll body ++ spelledBranches .branch rest)

end

mutual

/-- How many groups lie inside each other in a node. -/
def depth : Node → Nat
  | .choice branches none => depthOfBranches branches + 1
  | .choice branches (some body) => max (depthOfBranches branches) (depthOfAll body) + 1
  | .each _ body => depthOfAll body + 1
  | .block _ body => depthOfAll body + 1
  | _ => 0

/-- How many groups lie inside each other in a body. -/
def depthOfAll : List Node → Nat
  | [] => 0
  | node :: rest => max (depth node) (depthOfAll rest)

/-- How many groups lie inside each other in the bodies of some branches. -/
def depthOfBranches : List (String × List Node) → Nat
  | [] => 0
  | (_, body) :: rest => max (depthOfAll body) (depthOfBranches rest)

end

/-- A body is spelled part by part. -/
theorem spelledAll_append (first second : List Node) :
    spelledAll (first ++ second) = spelledAll first ++ spelledAll second := by
  induction first with
  | nil => rfl
  | cons node rest ih => simp only [List.cons_append, spelledAll, ih, List.append_assoc]

/-- A node alone is spelled as it is in a body. -/
theorem spelledAll_singleton (node : Node) : spelledAll [node] = spelled node := by
  simp only [spelledAll, List.append_nil]

/-- A body is visited part by part. -/
theorem flattenAll_append (first second : List Node) :
    flattenAll (first ++ second) = flattenAll first ++ flattenAll second := by
  induction first with
  | nil => rfl
  | cons node rest ih => simp only [List.cons_append, flattenAll, ih, List.append_assoc]

/-- The depth of a body is the largest one of its parts. -/
theorem depthOfAll_append (first second : List Node) :
    depthOfAll (first ++ second) = max (depthOfAll first) (depthOfAll second) := by
  induction first with
  | nil => simp [depthOfAll]
  | cons node rest ih => simp only [List.cons_append, depthOfAll, ih, Nat.max_assoc]

/-- The body of the last branch comes last. -/
theorem spelledBranches_last (opening : String → Token) (finished : List (String × List Node))
    (condition : String) (body : List Node) :
    spelledBranches opening (finished ++ [(condition, body)]) =
      spelledBranches opening (finished ++ [(condition, [])]) ++ spelledAll body := by
  induction finished generalizing opening with
  | nil => simp [spelledBranches, spelledAll]
  | cons branch rest ih =>
    simp only [List.cons_append, spelledBranches, ih, List.append_assoc]

/-- A branch that is opened behind others is spelled by its tag. -/
theorem spelledBranches_next (opening : String → Token) {finished : List (String × List Node)}
    (filled : finished ≠ []) (condition : String) :
    spelledBranches opening (finished ++ [(condition, [])]) =
      spelledBranches opening finished ++ [⟨.branch condition, none⟩] := by
  cases finished with
  | nil => exact (filled rfl).elim
  | cons branch rest =>
    induction rest generalizing opening branch with
    | nil => simp [spelledBranches, spelledAll]
    | cons next rest ih =>
      have later := ih .branch next (List.cons_ne_nil _ _)
      simp only [List.cons_append, spelledBranches] at later ⊢
      simp only [later, List.append_assoc, List.cons_append]

end Node

/-- A body whose tokens are generated at a depth that bounds its own, and that has as many nodes
as it has tokens that do not end a body. -/
structure Built (depth : Nat) (nodes : List Node) : Prop where
  /-- The tokens are those of a body. -/
  generated : Generates .body depth ((Node.spelledAll nodes).map Spelling.token)
  /-- The groups are nested at most as deep as allowed. -/
  shallow : Node.depthOfAll nodes ≤ depth
  /-- Every token that does not end a body has a node. -/
  visited : (Node.flattenAll nodes).length =
    (Node.spelledAll nodes).countP (!·.token.endsBody)

namespace Built

variable {depth : Nat} {nodes : List Node}

/-- Nothing is built. -/
theorem nil : Built depth [] := ⟨.nil, Nat.zero_le _, rfl⟩

/-- What is built behind what is built is built. -/
theorem append {first second : List Node} (one : Built depth first) (two : Built depth second) :
    Built depth (first ++ second) where
  generated := by
    rw [Node.spelledAll_append, List.map_append]
    exact one.generated.append two.generated
  shallow := by
    rw [Node.depthOfAll_append]
    exact Nat.max_le.2 ⟨one.shallow, two.shallow⟩
  visited := by
    rw [Node.flattenAll_append, Node.spelledAll_append, List.length_append, List.countP_append,
      one.visited, two.visited]

/-- A node that one token stands for is built. -/
theorem single {node : Node} {spelling : Spelling} (spelled : node.spelled = [spelling])
    (alone : spelling.token.isSingle = true) (flat : node.flatten = [node])
    (shallow : node.depth = 0) : Built depth [node] where
  generated := by
    rw [Node.spelledAll_singleton, spelled]
    exact .single alone .nil
  shallow := by simp [Node.depthOfAll, shallow]
  visited := by
    have stays := (Token.groupless_of_isSingle alone).2.2
    simp [Node.flattenAll, flat, Node.spelledAll_singleton, spelled, stays]

/-- An iteration over what is built is built. -/
theorem each (path : String) (inner : Built depth nodes) :
    Built (depth + 1) [.each path nodes] where
  generated := by
    simpa [Node.spelledAll, Node.spelled] using Generates.each inner.generated .nil
  shallow := by simpa [Node.depthOfAll, Node.depth] using inner.shallow
  visited := by
    simp [Node.flattenAll, Node.flatten, Node.spelledAll, Node.spelled, Token.endsBody,
      inner.visited]

/-- A block with what is built is built. -/
theorem block (name : String) (inner : Built depth nodes) :
    Built (depth + 1) [.block name nodes] where
  generated := by
    simpa [Node.spelledAll, Node.spelled] using Generates.block inner.generated .nil
  shallow := by simpa [Node.depthOfAll, Node.depth] using inner.shallow
  visited := by
    simp [Node.flattenAll, Node.flatten, Node.spelledAll, Node.spelled, Token.endsBody,
      inner.visited]

end Built

/-- Every one of some branches has a body that is built. -/
def BranchesBuilt (depth : Nat) (branches : List (String × List Node)) : Prop :=
  ∀ branch ∈ branches, Built depth branch.2

namespace BranchesBuilt

variable {depth : Nat} {branches : List (String × List Node)}

/-- Further branches of a choice are generated in front of what follows them. -/
theorem generated (built : BranchesBuilt depth branches) {more : List Token}
    (others : Generates .branches depth more) :
    Generates .branches depth
      ((Node.spelledBranches .branch branches).map Spelling.token ++ more) := by
  induction branches with
  | nil => exact others
  | cons branch rest ih =>
    have later := ih fun branch member => built branch (List.mem_cons_of_mem _ member)
    have here := (built branch List.mem_cons_self).generated
    simpa [Node.spelledBranches] using Generates.branch here later

/-- Branches are no deeper than their bodies. -/
theorem shallow (built : BranchesBuilt depth branches) : Node.depthOfBranches branches ≤ depth := by
  induction branches with
  | nil => exact Nat.zero_le _
  | cons branch rest ih =>
    have later := ih fun branch member => built branch (List.mem_cons_of_mem _ member)
    exact Nat.max_le.2 ⟨(built branch List.mem_cons_self).shallow, later⟩

/-- Further branches of a choice have the nodes of their bodies. -/
theorem visited (built : BranchesBuilt depth branches) :
    (Node.flattenBranches branches).length =
      (Node.spelledBranches .branch branches).countP (!·.token.endsBody) := by
  induction branches with
  | nil => rfl
  | cons branch rest ih =>
    have later := ih fun branch member => built branch (List.mem_cons_of_mem _ member)
    have here := (built branch List.mem_cons_self).visited
    simp [Node.flattenBranches, Node.spelledBranches, Token.endsBody, here, later]

end BranchesBuilt

/-- A choice between branches that are built is built, with or without a last branch. -/
theorem Built.choice {depth : Nat} {branches : List (String × List Node)}
    {last : Option (List Node)} (filled : branches ≠ []) (built : BranchesBuilt depth branches)
    (ending : ∀ body, last = some body → Built depth body) :
    Built (depth + 1) [.choice branches last] := by
  obtain ⟨⟨condition, body⟩, rest, rfl⟩ := List.exists_cons_of_ne_nil filled
  have first := built _ List.mem_cons_self
  have others : BranchesBuilt depth rest :=
    fun branch member => built branch (List.mem_cons_of_mem _ member)
  have bounded := Nat.max_le.2 ⟨first.shallow, others.shallow⟩
  cases last with
  | none =>
    refine ⟨?_, ?_, ?_⟩
    · simpa [Node.spelledAll, Node.spelled, Node.spelledBranches] using
        Generates.choice first.generated (others.generated .close) .nil
    · simpa [Node.depthOfAll, Node.depth, Node.depthOfBranches] using bounded
    · simp [Node.flattenAll, Node.flatten, Node.flattenBranches, Node.spelledAll, Node.spelled,
        Node.spelledBranches, Token.endsBody, first.visited, others.visited]
  | some body =>
    have last := ending body rfl
    refine ⟨?_, ?_, ?_⟩
    · simpa [Node.spelledAll, Node.spelled, Node.spelledBranches] using
        Generates.choice first.generated (others.generated (.otherwise last.generated)) .nil
    · simpa [Node.depthOfAll, Node.depth, Node.depthOfBranches] using
        Nat.max_le.2 ⟨bounded, last.shallow⟩
    · simp [Node.flattenAll, Node.flatten, Node.flattenBranches, Node.spelledAll, Node.spelled,
        Node.spelledBranches, Token.endsBody, first.visited, others.visited, last.visited]

end NoteTemplate.Template
