import Mathlib.Data.List.Nodup
import PipelineConfig.Graph.Rendering
import PipelineConfig.Proofs.DependencyOrder
import PipelineConfig.Proofs.LowerCase
import PipelineConfig.Proofs.Sorting

/-!
# What can be read off a drawing

A drawing is read line by line. Valid names hold none of the characters that the lines are put
together with, so a node cannot be taken for an edge, nor one name for another, and a drawing is
read as the very nodes and edges it was written from. A DOT graph leaves out the nodes that an edge
touches; they are read off the edges. So graphs that are drawn alike have the same nodes and edges.
-/

namespace PipelineConfig

namespace Name

/-- The characters that may stand in a valid name. -/
def isPlainChar (char : Char) : Bool := isNameChar char || char == '.'

/-- A text of characters that may stand in a valid name. -/
def IsPlain (text : String) : Prop := ∀ char ∈ text.toList, isPlainChar char = true

theorem isPlain_of_isValid {text : String} (valid : isValid text = true) : IsPlain text := by
  intro char member
  rw [isValid] at valid
  split at valid
  · exact absurd valid Bool.false_ne_true
  · rename_i first rest chars
    simp only [Bool.and_eq_true, List.all_eq_true] at valid
    obtain ⟨⟨-, first_named⟩, rest_named⟩ := valid
    rw [chars] at member
    rcases List.mem_cons.1 member with rfl | member
    · rw [isPlainChar, first_named, Bool.true_or]
    · exact rest_named char member

theorem isPlainChar_toLower (char : Char) : isPlainChar char.toLower = isPlainChar char := by
  by_cases capital : char.val ≥ 'A'.val ∧ char.val ≤ 'Z'.val
  · have ascii : ∀ value < 91,
        isPlainChar (Char.ofNat value).toLower = isPlainChar (Char.ofNat value) := by decide
    rw [← Char.ofNat_toNat char]
    exact ascii char.toNat (Nat.lt_succ_of_le capital.2)
  · have stays : char.toLower = char := dif_neg capital
    rw [stays]

/-- Spellings of one name are plain together. -/
theorem IsPlain.of_same {left right : Name} (plain : IsPlain left.text)
    (same : left.same right = true) : IsPlain right.text := by
  intro char member
  have folded : left.text.toList.map Char.toLower = right.text.toList.map Char.toLower := by
    rw [← String.toList_map, ← String.toList_map]
    exact congrArg String.toList (same_iff_folded.1 same)
  have lower : char.toLower ∈ left.text.toList.map Char.toLower :=
    folded ▸ List.mem_map_of_mem member
  obtain ⟨other, listed, equal⟩ := List.mem_map.1 lower
  rw [← isPlainChar_toLower, ← equal, isPlainChar_toLower, plain other listed]

theorem IsPlain.not_mem {text : String} (plain : IsPlain text) {char : Char}
    (other : isPlainChar char = false) : char ∉ text.toList := fun member =>
  Bool.false_ne_true (other ▸ plain char member)

end Name

namespace DependencyGraph

/-! ## Reading lines -/

/-- What a line of a drawing shows. -/
inductive Shown where
  /-- A node. -/
  | node (name : String)
  /-- An edge, by upstream, downstream and stage. -/
  | edge (texts : String × String × String)

/-- Read a line of a Mermaid chart. Nodes and edges differ in the number of blanks. -/
def readMermaid? (line : List Char) : Option Shown :=
  match Text.splitChars ' ' line with
  | [_, _, _, _, node] =>
    match Text.splitChars '[' node with
    | [name, _] => some (.node (String.ofList name))
    | _ => none
  | [_, _, _, _, upstream, arrow, downstream] =>
    match Text.splitChars '|' arrow with
    | [_, stage, _] =>
      some (.edge (String.ofList upstream, String.ofList downstream, String.ofList stage))
    | _ => none
  | _ => none

/-- Read a line of a DOT graph. Nodes and edges differ in the number of quotation marks. -/
def readDot? (line : List Char) : Option Shown :=
  match Text.splitChars '"' line with
  | [_, name, _] => some (.node (String.ofList name))
  | [_, upstream, _, downstream, _, stage, _] =>
    some (.edge (String.ofList upstream, String.ofList downstream, String.ofList stage))
  | _ => none

/-- What the lines of a text show. -/
def shown (read? : List Char → Option Shown) (text : String) : List Shown :=
  (Text.splitChars '\n' text.toList).filterMap read?

section Lines

variable {read? : List Char → Option Shown}

theorem shown_line_append (line rest : String) :
    shown read? (line ++ "\n" ++ rest) = shown read? line ++ shown read? rest := by
  have broken : (line ++ "\n" ++ rest).toList = line.toList ++ '\n' :: rest.toList := by
    simp
  rw [shown, broken, Text.splitChars_append_cons, List.filterMap_append]
  rfl

theorem shown_of_not_mem {line : String} (unbroken : '\n' ∉ line.toList) :
    shown read? line = (read? line.toList).toList := by
  rw [shown, Text.splitChars_of_not_mem unbroken]
  cases read_line : read? line.toList <;> simp [read_line]

/-- A text is written as one line, which is read as what it shows. -/
def Draws (read? : List Char → Option Shown) (text : String) (shows : Shown) : Prop :=
  ∃ line : String, text = line ++ "\n" ∧ '\n' ∉ line.toList ∧ read? line.toList = some shows

theorem shown_join_append {α : Type} {write : α → String} {shows : α → Shown} {members : List α}
    (draws : ∀ member ∈ members, Draws read? (write member) (shows member)) (rest : String) :
    shown read? (String.join (members.map write) ++ rest) =
      members.map shows ++ shown read? rest := by
  induction members with
  | nil => simp
  | cons member later ih =>
    obtain ⟨line, written, unbroken, reads⟩ := draws member List.mem_cons_self
    rw [List.map_cons, String.join_cons, written, String.append_assoc, shown_line_append,
      shown_of_not_mem unbroken, reads, ih fun other listed => draws other (.tail _ listed)]
    rfl

end Lines

theorem draws_mermaidNode {name : String} (plain : Name.IsPlain name) :
    Draws readMermaid? (mermaidNode name) (.node name) := by
  have blank : ' ' ∉ name.toList := plain.not_mem rfl
  have bracket : '[' ∉ name.toList := plain.not_mem rfl
  have unbroken : '\n' ∉ name.toList := plain.not_mem rfl
  refine ⟨"    " ++ name ++ "[" ++ name ++ "]", ?_, by simp [unbroken], ?_⟩
  · simp [mermaidNode, String.append_assoc, ToString.toString]
  · have words : ("    " ++ name ++ "[" ++ name ++ "]").toList =
        [' '].intercalate [[], [], [], [],
          ['['].intercalate [name.toList, name.toList ++ [']']]] := by
      simp [List.intercalate]
    rw [readMermaid?, words, Text.splitChars_intercalate (by simp) (by simp [blank])]
    dsimp only
    rw [Text.splitChars_intercalate (by simp) (by simp [bracket])]
    simp only [String.ofList_toList]

theorem draws_mermaidEdge {upstream downstream stage : String}
    (upstream_plain : Name.IsPlain upstream) (downstream_plain : Name.IsPlain downstream)
    (stage_plain : Name.IsPlain stage) :
    Draws readMermaid? (mermaidEdge (upstream, downstream, stage))
      (.edge (upstream, downstream, stage)) := by
  have blank {name : String} (plain : Name.IsPlain name) : ' ' ∉ name.toList := plain.not_mem rfl
  have bar : '|' ∉ stage.toList := stage_plain.not_mem rfl
  have unbroken {name : String} (plain : Name.IsPlain name) : '\n' ∉ name.toList :=
    plain.not_mem rfl
  refine ⟨"    " ++ upstream ++ " -->|" ++ stage ++ "| " ++ downstream, ?_, ?_, ?_⟩
  · simp [mermaidEdge, String.append_assoc, ToString.toString]
  · simp [unbroken upstream_plain, unbroken downstream_plain, unbroken stage_plain]
  · have words : ("    " ++ upstream ++ " -->|" ++ stage ++ "| " ++ downstream).toList =
        [' '].intercalate [[], [], [], [], upstream.toList,
          ['|'].intercalate [['-', '-', '>'], stage.toList, []], downstream.toList] := by
      simp [List.intercalate]
    rw [readMermaid?, words, Text.splitChars_intercalate (by simp)
      (by simp [blank upstream_plain, blank downstream_plain, blank stage_plain])]
    dsimp only
    rw [Text.splitChars_intercalate (by simp) (by simp [bar])]
    simp only [String.ofList_toList]

theorem draws_dotNode {name : String} (plain : Name.IsPlain name) :
    Draws readDot? (dotNode name) (.node name) := by
  have quote : '"' ∉ name.toList := plain.not_mem rfl
  have unbroken : '\n' ∉ name.toList := plain.not_mem rfl
  refine ⟨"    \"" ++ name ++ "\";", ?_, by simp [unbroken], ?_⟩
  · simp [dotNode, String.append_assoc, ToString.toString]
  · have parts : ("    \"" ++ name ++ "\";").toList =
        ['"'].intercalate ["    ".toList, name.toList, [';']] := by
      simp [List.intercalate]
    rw [readDot?, parts, Text.splitChars_intercalate (by simp) (by simp [quote])]
    simp only [String.ofList_toList]

theorem draws_dotEdge {upstream downstream stage : String}
    (upstream_plain : Name.IsPlain upstream) (downstream_plain : Name.IsPlain downstream)
    (stage_plain : Name.IsPlain stage) :
    Draws readDot? (dotEdge (upstream, downstream, stage))
      (.edge (upstream, downstream, stage)) := by
  have quote {name : String} (plain : Name.IsPlain name) : '"' ∉ name.toList := plain.not_mem rfl
  have unbroken {name : String} (plain : Name.IsPlain name) : '\n' ∉ name.toList :=
    plain.not_mem rfl
  refine ⟨"    \"" ++ upstream ++ "\" -> \"" ++ downstream ++ "\" [label=\"" ++ stage ++ "\"];",
    ?_, ?_, ?_⟩
  · simp [dotEdge, String.append_assoc, ToString.toString]
  · simp [unbroken upstream_plain, unbroken downstream_plain, unbroken stage_plain]
  · have parts : ("    \"" ++ upstream ++ "\" -> \"" ++ downstream ++ "\" [label=\"" ++ stage ++
          "\"];").toList =
        ['"'].intercalate ["    ".toList, upstream.toList, " -> ".toList, downstream.toList,
          " [label=".toList, stage.toList, "];".toList] := by
      simp [List.intercalate]
    rw [readDot?, parts, Text.splitChars_intercalate (by simp)
      (by simp [quote upstream_plain, quote downstream_plain, quote stage_plain])]
    simp only [String.ofList_toList]

/-! ## Reading drawings -/

/-- A graph whose drawings can be read: its nodes go by different names, and all names that are
written are plain. -/
structure Legible (graph : DependencyGraph) : Prop where
  /-- Nodes have plain names. -/
  node : ∀ node, Name.IsPlain (graph.nameOf node).text
  /-- Stages that are waited for have plain names. -/
  stage : ∀ edge ∈ graph.edges, Name.IsPlain edge.stage.text
  /-- No two nodes go by one name. -/
  distinct : ∀ left right, (graph.nameOf left).same (graph.nameOf right) = true → left = right

/-- Two graphs have the same nodes and the same edges, by name. -/
structure ShowsAlike (left right : DependencyGraph) : Prop where
  /-- They have nodes of the same names. -/
  nodes : ∀ text, text ∈ left.texts left.nodes ↔ text ∈ right.texts right.nodes
  /-- They have the same edges, equally often: from upstream to downstream for a stage. -/
  edges : (left.edges.map fun edge =>
      ((left.nameOf edge.source).text, (left.nameOf edge.target).text, edge.stage.text)).Perm
    (right.edges.map fun edge =>
      ((right.nameOf edge.source).text, (right.nameOf edge.target).text, edge.stage.text))
  /-- The same nodes have no edges. -/
  isolated : ∀ text, text ∈ left.texts (left.nodes.filter left.isIsolated) ↔
    text ∈ right.texts (right.nodes.filter right.isIsolated)
  /-- The same pipelines wait for themselves, equally often. -/
  loops : ((left.edges.filter fun edge => edge.source = edge.target).map fun edge =>
      ((left.nameOf edge.source).text, (left.nameOf edge.target).text, edge.stage.text)).Perm
    ((right.edges.filter fun edge => edge.source = edge.target).map fun edge =>
      ((right.nameOf edge.source).text, (right.nameOf edge.target).text, edge.stage.text))

namespace Shown

/-- The node that a line shows. -/
def name? : Shown → Option String
  | node name => some name
  | edge _ => none

/-- The edge that a line shows. -/
def texts? : Shown → Option (String × String × String)
  | node _ => none
  | edge texts => some texts

end Shown

namespace Legible

variable {graph : DependencyGraph}

theorem of_mem_sortedEdges (legible : graph.Legible) {texts : String × String × String}
    (member : texts ∈ graph.sortedEdges) :
    Name.IsPlain texts.1 ∧ Name.IsPlain texts.2.1 ∧ Name.IsPlain texts.2.2 := by
  obtain ⟨edge, given, rfl⟩ := List.mem_map.1 ((List.mergeSort_perm _ _).mem_iff.1 member)
  exact ⟨legible.node edge.source, legible.node edge.target, legible.stage edge given⟩

/-- A Mermaid chart is read as all nodes and all edges. -/
theorem shown_mermaid (legible : graph.Legible) :
    shown readMermaid? graph.mermaid =
      (graph.texts graph.sortedNodes).map .node ++ graph.sortedEdges.map .edge := by
  have title : shown readMermaid? "graph LR" = [] := rfl
  have rest : shown readMermaid? "" = [] := rfl
  have written : graph.mermaid = "graph LR" ++ "\n" ++
      (String.join (graph.sortedNodes.map fun node => mermaidNode (graph.nameOf node).text) ++
        (String.join (graph.sortedEdges.map mermaidEdge) ++ "")) := by
    rw [mermaid, String.append_assoc, String.append_empty]
    rfl
  rw [written, shown_line_append, title, List.nil_append,
    shown_join_append fun node _ => draws_mermaidNode (legible.node node),
    shown_join_append fun texts member =>
      have plain := legible.of_mem_sortedEdges member
      draws_mermaidEdge plain.1 plain.2.1 plain.2.2,
    rest, List.append_nil, texts, List.map_map]
  rfl

/-- A DOT graph is read as all edges and the nodes without edges. -/
theorem shown_dot (legible : graph.Legible) :
    shown readDot? graph.dot = graph.sortedEdges.map .edge ++
      (graph.texts (graph.sortedNodes.filter graph.isIsolated)).map .node := by
  obtain ⟨header, opening, ended⟩ : ∃ header, shown readDot? header = [] ∧
      "digraph pipelines \x7b\n    rankdir=LR;\n    node [shape=box, style=rounded];\n\n" =
        header ++ "\n" :=
    ⟨"digraph pipelines \x7b\n    rankdir=LR;\n    node [shape=box, style=rounded];\n", rfl, rfl⟩
  have closing : shown readDot? "\x7d\n" = [] := rfl
  unfold dot
  rw [ended, String.append_assoc, String.append_assoc, shown_line_append, opening,
    List.nil_append,
    shown_join_append fun texts member =>
      have plain := legible.of_mem_sortedEdges member
      draws_dotEdge plain.1 plain.2.1 plain.2.2,
    shown_join_append fun node _ => draws_dotNode (legible.node node),
    closing, List.append_nil, texts, List.map_map]
  rfl

end Legible

/-! ## What drawings have in common -/

section Alike

variable {graph left right : DependencyGraph}

theorem mem_texts {nodes : List graph.Node} {text : String} :
    text ∈ graph.texts nodes ↔ ∃ node ∈ nodes, (graph.nameOf node).text = text := List.mem_map

theorem perm_sortedEdges (graph : DependencyGraph) :
    graph.sortedEdges.Perm (graph.edges.map graph.edgeTexts) := List.mergeSort_perm _ _

theorem perm_sortedNodes (graph : DependencyGraph) : graph.sortedNodes.Perm graph.nodes :=
  List.mergeSort_perm _ _

theorem mem_texts_sortedNodes {text : String} :
    text ∈ graph.texts graph.sortedNodes ↔ text ∈ graph.texts graph.nodes :=
  (graph.perm_sortedNodes.map _).mem_iff

theorem mem_texts_sortedNodes_filter {text : String} (meets : graph.Node → Bool) :
    text ∈ graph.texts (graph.sortedNodes.filter meets) ↔
      text ∈ graph.texts (graph.nodes.filter meets) :=
  ((graph.perm_sortedNodes.filter _).map _).mem_iff

theorem mem_nodes (node : graph.Node) : node ∈ graph.nodes := List.mem_finRange node

theorem isIsolated_iff {node : graph.Node} :
    graph.isIsolated node = true ↔
      ∀ edge ∈ graph.edges, edge.source ≠ node ∧ edge.target ≠ node := by
  simp [isIsolated]

theorem Legible.text_inj (legible : graph.Legible) {node other : graph.Node} :
    (graph.nameOf node).text = (graph.nameOf other).text ↔ node = other := by
  constructor
  · intro equal
    exact legible.distinct node other (by rw [Name.same_iff, Name.key, Name.key, equal])
  · rintro rfl
    rfl

/-- Isolated are the nodes that no edge names. -/
theorem Legible.mem_isolated_iff (legible : graph.Legible) {text : String} :
    text ∈ graph.texts (graph.nodes.filter graph.isIsolated) ↔
      text ∈ graph.texts graph.nodes ∧
        ∀ texts ∈ graph.edges.map graph.edgeTexts, texts.1 ≠ text ∧ texts.2.1 ≠ text := by
  simp only [mem_texts, List.mem_filter, isIsolated_iff, List.forall_mem_map, edgeTexts, ne_eq]
  constructor
  · rintro ⟨node, ⟨listed, apart⟩, rfl⟩
    simp only [legible.text_inj]
    exact ⟨⟨node, listed, rfl⟩, apart⟩
  · rintro ⟨⟨node, listed, rfl⟩, apart⟩
    simp only [legible.text_inj] at apart
    exact ⟨node, ⟨listed, apart⟩, rfl⟩

/-- Every node is isolated or named by an edge. -/
theorem Legible.mem_texts_nodes_iff (legible : graph.Legible) {text : String} :
    text ∈ graph.texts graph.nodes ↔
      text ∈ graph.texts (graph.nodes.filter graph.isIsolated) ∨
        ∃ texts ∈ graph.edges.map graph.edgeTexts, texts.1 = text ∨ texts.2.1 = text := by
  rw [legible.mem_isolated_iff]
  constructor
  · intro listed
    by_cases named : ∃ texts ∈ graph.edges.map graph.edgeTexts, texts.1 = text ∨ texts.2.1 = text
    · exact .inr named
    · refine .inl ⟨listed, fun texts given => ?_⟩
      rw [← not_or]
      exact fun named' => named ⟨texts, given, named'⟩
  · rintro (⟨listed, -⟩ | ⟨texts, given, named⟩)
    · exact listed
    · obtain ⟨edge, -, rfl⟩ := List.mem_map.1 given
      rcases named with rfl | rfl
      · exact mem_texts.2 ⟨edge.source, mem_nodes _, rfl⟩
      · exact mem_texts.2 ⟨edge.target, mem_nodes _, rfl⟩

/-- The loops among the edges. -/
theorem Legible.loops_eq (legible : graph.Legible) :
    (graph.edges.filter fun edge => edge.source = edge.target).map graph.edgeTexts =
      (graph.edges.map graph.edgeTexts).filter fun texts => texts.1 = texts.2.1 := by
  rw [List.filter_map]
  congr 1
  exact List.filter_congr fun edge _ => decide_eq_decide.2 legible.text_inj.symm

/-- Equal edges, and equal nodes or equal nodes without edges: the rest follows. -/
theorem Legible.showsAlike (legible : left.Legible) (legible' : right.Legible)
    (edges : left.sortedEdges = right.sortedEdges)
    (nodes : (∀ text, text ∈ left.texts left.nodes ↔ text ∈ right.texts right.nodes) ∨
      ∀ text, text ∈ left.texts (left.nodes.filter left.isIsolated) ↔
        text ∈ right.texts (right.nodes.filter right.isIsolated)) : left.ShowsAlike right := by
  have same : (left.edges.map left.edgeTexts).Perm (right.edges.map right.edgeTexts) :=
    left.perm_sortedEdges.symm.trans (edges ▸ right.perm_sortedEdges)
  have all_nodes (text : String) :
      text ∈ left.texts left.nodes ↔ text ∈ right.texts right.nodes := by
    rcases nodes with nodes | isolated
    · exact nodes text
    · simp only [legible.mem_texts_nodes_iff, legible'.mem_texts_nodes_iff, isolated, same.mem_iff]
  have loops : ((left.edges.filter fun edge => edge.source = edge.target).map left.edgeTexts).Perm
      ((right.edges.filter fun edge => edge.source = edge.target).map right.edgeTexts) := by
    rw [legible.loops_eq, legible'.loops_eq]
    exact same.filter _
  refine ⟨all_nodes, same, fun text => ?_, loops⟩
  simp only [legible.mem_isolated_iff, legible'.mem_isolated_iff, all_nodes, same.mem_iff]

theorem Legible.showsAlike_of_mermaid (legible : left.Legible) (legible' : right.Legible)
    (drawn : left.mermaid = right.mermaid) : left.ShowsAlike right := by
  have shown : shown readMermaid? left.mermaid = shown readMermaid? right.mermaid := by rw [drawn]
  rw [legible.shown_mermaid, legible'.shown_mermaid] at shown
  have names : left.texts left.sortedNodes = right.texts right.sortedNodes := by
    simpa [Function.comp_def, Shown.name?] using
      congrArg (List.filterMap Shown.name?) shown
  have edges : left.sortedEdges = right.sortedEdges := by
    simpa [Function.comp_def, Shown.texts?] using
      congrArg (List.filterMap Shown.texts?) shown
  refine legible.showsAlike legible' edges (.inl fun text => ?_)
  rw [← mem_texts_sortedNodes, names, mem_texts_sortedNodes]

theorem Legible.showsAlike_of_dot (legible : left.Legible) (legible' : right.Legible)
    (drawn : left.dot = right.dot) : left.ShowsAlike right := by
  have shown : shown readDot? left.dot = shown readDot? right.dot := by rw [drawn]
  rw [legible.shown_dot, legible'.shown_dot] at shown
  have names : left.texts (left.sortedNodes.filter left.isIsolated) =
      right.texts (right.sortedNodes.filter right.isIsolated) := by
    simpa [Function.comp_def, Shown.name?] using
      congrArg (List.filterMap Shown.name?) shown
  have edges : left.sortedEdges = right.sortedEdges := by
    simpa [Function.comp_def, Shown.texts?] using
      congrArg (List.filterMap Shown.texts?) shown
  refine legible.showsAlike legible' edges (.inr fun text => ?_)
  rw [← mem_texts_sortedNodes_filter, names, mem_texts_sortedNodes_filter]

/-! ## Drawings of like graphs -/

instance : Std.TransCmp edgeOrder :=
  inferInstanceAs (Std.TransCmp (compareLex (compareOn Prod.fst)
    (compareLex (compareOn fun texts : String × String × String => texts.2.1)
      (compareOn fun texts : String × String × String => texts.2.2))))

theorem eq_of_edgeOrder {texts other : String × String × String}
    (equal : edgeOrder texts other = .eq) : texts = other := by
  obtain ⟨upstream, downstream, stage⟩ := texts
  simp only [edgeOrder, Ordering.then_eq_eq, Std.LawfulEqOrd.compare_eq_iff_eq] at equal
  obtain ⟨rfl, rfl, rfl⟩ := equal
  rfl

/-- Edges are listed in an order that does not depend on the materials they come from. -/
theorem ShowsAlike.sortedEdges_eq (alike : left.ShowsAlike right) :
    left.sortedEdges = right.sortedEdges := by
  refine eq_of_perm_of_pairwise ?_ (fun _ _ _ _ => eq_of_edgeOrder)
    (pairwise_isLE_mergeSort edgeOrder _) (pairwise_isLE_mergeSort edgeOrder _)
  exact left.perm_sortedEdges.trans (alike.edges.trans right.perm_sortedEdges.symm)

/-- Nodes of the same names are listed in one order. -/
theorem Legible.texts_eq (legible : left.Legible) (legible' : right.Legible)
    {nodes : List left.Node} {nodes' : List right.Node} (among : nodes.Sublist left.sortedNodes)
    (among' : nodes'.Sublist right.sortedNodes)
    (same : ∀ text, text ∈ left.texts nodes ↔ text ∈ right.texts nodes') :
    left.texts nodes = right.texts nodes' := by
  have sorted (graph : DependencyGraph) {nodes : List graph.Node}
      (among : nodes.Sublist graph.sortedNodes) : (graph.texts nodes).Pairwise fun text other =>
        (compare (Name.mk text) (Name.mk other)).isLE = true :=
    List.pairwise_map.2 <| List.Pairwise.sublist among <|
      List.pairwise_mergeSort (fun _ _ _ => Std.TransCmp.isLE_trans)
        (fun node other => isLE_total compare (graph.nameOf node) (graph.nameOf other)) _
  have nodup {graph : DependencyGraph} (legible : graph.Legible) {nodes : List graph.Node}
      (among : nodes.Sublist graph.sortedNodes) : (graph.texts nodes).Nodup :=
    (among.nodup (graph.perm_sortedNodes.nodup_iff.2 (List.nodup_finRange _))).map
      fun _ _ => legible.text_inj.1
  refine List.Perm.eq_of_pairwise (fun text other listed listed' before behind => ?_)
    (sorted left among) (sorted right among')
    ((List.perm_ext_iff_of_nodup (nodup legible among) (nodup legible' among')).2 same)
  obtain ⟨node, -, rfl⟩ := mem_texts.1 listed
  obtain ⟨node', -, rfl⟩ := mem_texts.1 ((same other).2 listed')
  have equal := Name.compare_eq_iff_same.1 (Std.OrientedCmp.isLE_antisymm before behind)
  rw [legible.distinct node node' equal]

theorem ShowsAlike.mermaid_eq (alike : left.ShowsAlike right) (legible : left.Legible)
    (legible' : right.Legible) : left.mermaid = right.mermaid := by
  have written (graph : DependencyGraph) : graph.mermaid = "graph LR\n" ++
      String.join ((graph.texts graph.sortedNodes).map mermaidNode) ++
        String.join (graph.sortedEdges.map mermaidEdge) := by
    rw [texts, List.map_map]
    rfl
  have nodes : left.texts left.sortedNodes = right.texts right.sortedNodes :=
    legible.texts_eq legible' (.refl _) (.refl _) fun text => by
      rw [mem_texts_sortedNodes, mem_texts_sortedNodes, alike.nodes]
  rw [written, written, alike.sortedEdges_eq, nodes]

theorem ShowsAlike.dot_eq (alike : left.ShowsAlike right) (legible : left.Legible)
    (legible' : right.Legible) : left.dot = right.dot := by
  have written (graph : DependencyGraph) : graph.dot =
      "digraph pipelines \x7b\n    rankdir=LR;\n    node [shape=box, style=rounded];\n\n" ++
        String.join (graph.sortedEdges.map dotEdge) ++
        String.join ((graph.texts (graph.sortedNodes.filter graph.isIsolated)).map dotNode) ++
        "\x7d\n" := by
    rw [texts, List.map_map]
    rfl
  have isolated : left.texts (left.sortedNodes.filter left.isIsolated) =
      right.texts (right.sortedNodes.filter right.isIsolated) :=
    legible.texts_eq legible' List.filter_sublist List.filter_sublist fun text => by
      rw [mem_texts_sortedNodes_filter, mem_texts_sortedNodes_filter, alike.isolated]
  rw [written, written, alike.sortedEdges_eq, isolated]

end Alike

/-! ## Drawings of catalogs -/

theorem mem_of_mem_foldl_addNode {added names : List Name} {name : Name}
    (member : name ∈ added.foldl addNode names) : name ∈ names ∨ name ∈ added := by
  induction added generalizing names with
  | nil => exact .inl member
  | cons first rest ih =>
    rcases ih member with before | later
    · rw [addNode] at before
      split at before
      · exact .inl before
      · rcases List.mem_append.1 before with before | new
        · exact .inl before
        · exact .inr (List.mem_singleton.1 new ▸ List.mem_cons_self)
    · exact .inr (.tail _ later)

end DependencyGraph

namespace Catalog

open DependencyGraph

/-- The committed pipelines, and the pipelines and stages they wait for, have valid names. -/
def ValidlyNamed (catalog : Catalog) : Prop :=
  ∀ entry ∈ catalog.entries.values, Name.isValid entry.pipeline.name.text = true ∧
    ∀ material ∈ entry.pipeline.materials.items, ∀ target ∈ material.target?,
      Name.isValid target.1.text = true ∧ Name.isValid target.2.text = true

/-- A node that stands for a committed pipeline may have another spelling of its name. -/
theorem Consistent.legible {catalog : Catalog} (consistent : catalog.Consistent)
    (named : catalog.ValidlyNamed) : (ofCatalog catalog).Legible where
  distinct _ _ := eq_of_same_nameOf
  node := by
    intro node
    rcases mem_of_mem_foldl_addNode (List.get_mem (ofCatalog catalog).names node) with
      committed | awaited
    · obtain ⟨row, member, key⟩ := List.mem_map.1 committed
      have found : catalog.pipeline? row.1 = some row.2.pipeline :=
        pipeline?_eq_some_iff.2 ⟨row.2.group, Table.get?_of_mem member⟩
      have valid := (named row.2 (List.mem_map_of_mem member)).1
      have plain := (Name.isPlain_of_isValid valid).of_same (consistent.named found)
      rwa [key] at plain
    · obtain ⟨entry, member, awaited⟩ := List.mem_flatMap.1 awaited
      obtain ⟨material, declared, waits⟩ := List.mem_filterMap.1 awaited
      obtain ⟨target, waits, upstream⟩ := Option.map_eq_some_iff.1 waits
      have valid := ((named entry member).2 material declared target waits).1
      have plain := Name.isPlain_of_isValid valid
      rwa [upstream] at plain
  stage := by
    intro edge given
    obtain ⟨row, member, given⟩ := List.mem_flatMap.1 given
    obtain ⟨material, declared, upstream, waits, -, -⟩ := mem_edgesInto.1 given
    have valid := ((named row.2 (List.mem_map_of_mem member)).2 material declared _ waits).2
    exact Name.isPlain_of_isValid valid

/-- A drawing loses nothing of a graph with valid names: two catalogs have equal Mermaid charts, or
equal DOT graphs, just when their graphs have nodes of the same names and the same edges, equally
often. So nodes without edges, repeated edges and pipelines that wait for themselves can be read off
either drawing. -/
theorem Reachable.drawings_told [Pattern.Engine] {left right : Catalog}
    (left_reachable : left.Reachable) (right_reachable : right.Reachable)
    (left_named : left.ValidlyNamed) (right_named : right.ValidlyNamed) :
    ((ofCatalog left).mermaid = (ofCatalog right).mermaid ↔
      (ofCatalog left).ShowsAlike (ofCatalog right)) ∧
    ((ofCatalog left).dot = (ofCatalog right).dot ↔
      (ofCatalog left).ShowsAlike (ofCatalog right)) := by
  have legible := left_reachable.consistent.legible left_named
  have legible' := right_reachable.consistent.legible right_named
  exact ⟨⟨legible.showsAlike_of_mermaid legible', fun alike => alike.mermaid_eq legible legible'⟩,
    ⟨legible.showsAlike_of_dot legible', fun alike => alike.dot_eq legible legible'⟩⟩

/-- A pipeline of a name that waits for pipelines. -/
def waitingForAll (name : String) (upstreams : List String) : Pipeline :=
  { name := ⟨name⟩,
    materials.items := upstreams.map fun upstream =>
      ⟨.dependency ⟨upstream⟩ ⟨"run"⟩, none, none, true, .none⟩ }

/-- A pipeline that waits for others, beside one that waits for none. -/
def besideDocs (upstreams : List String) : Configuration :=
  { groups := [⟨"first", [waitingForAll "build" upstreams, waitingForAll "docs" []]⟩] }

/-- The order of materials is not drawn, but a repeated one is. -/
theorem drawings_besideDocs :
    let graph (upstreams : List String) := ofCatalog (ofConfiguration (besideDocs upstreams))
    (graph ["base", "tools", "build", "base"]).names ≠
      (graph ["tools", "base", "base", "build"]).names ∧
    (graph ["base", "tools", "build", "base"]).mermaid =
      (graph ["tools", "base", "base", "build"]).mermaid ∧
    (graph ["base", "tools", "build", "base"]).dot ≠ (graph ["base", "tools", "build"]).dot := by
  intro graph
  have reachable (upstreams : List String) :
      (ofConfiguration (besideDocs upstreams)).Reachable := ⟨some (besideDocs upstreams), [], rfl⟩
  have named : (ofConfiguration (besideDocs ["base", "tools", "build", "base"])).ValidlyNamed := by
    unfold ValidlyNamed
    decide +kernel
  have named' : (ofConfiguration (besideDocs ["tools", "base", "base", "build"])).ValidlyNamed := by
    unfold ValidlyNamed
    decide +kernel
  have named'' : (ofConfiguration (besideDocs ["base", "tools", "build"])).ValidlyNamed := by
    unfold ValidlyNamed
    decide +kernel
  refine ⟨by decide +kernel, ?_, ?_⟩
  · refine (Reachable.drawings_told (reachable _) (reachable _) named named').1.2
      ⟨fun _ => List.Perm.mem_iff (by decide +kernel), by decide +kernel,
        fun _ => List.Perm.mem_iff (by decide +kernel), by decide +kernel⟩
  · intro drawn
    have alike := (Reachable.drawings_told (reachable _) (reachable _) named named'').2.1 drawn
    exact absurd alike.edges.length_eq (by decide +kernel)

end Catalog

end PipelineConfig
