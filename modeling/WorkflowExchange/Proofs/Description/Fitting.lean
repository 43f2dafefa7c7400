import Mathlib.Data.Nat.Find
import WorkflowExchange.Description.Summary
import WorkflowExchange.Proofs.Exchange.Snapshot
import WorkflowExchange.Proofs.Value.Represented

/-!
# What fits a limit

A `Sketch` is what summaries may tell of a workflow of JSON.  As much of it as fits a
limit is its whole summary, or the one without parameters, or the longest cut that
fits: `Sketch.fitted`.  Only the cut without nodes can be too long.  The summary that is
made of a workflow stands for what fits of its sketch (`Summary.fits_sketch`), where the
whole of it is within the limits of the writer.
-/

namespace WorkflowExchange

namespace Json

/-- The length of the JSON text on one line. -/
def size (json : Json) : Nat :=
  (json.write .spaced).length

end Json

/-- The parts of a workflow of JSON that a summary may tell of. -/
structure Sketch where
  name : Json
  nodes : List Json
  connections : Json

namespace Sketch

/-- The sketch of a workflow, given by its members.  Nodes that are no objects are
passed over. -/
def ofWorkflow (name : Json) (members : List (String × Json)) : Sketch where
  name := name
  nodes := (Json.field members "nodes").items.filter Json.isObject
  connections := (Json.field members "connections").orElse (.object [])

/-- The name and the type of a node. -/
def bareNode (node : Json) : Json :=
  .object
    [("name", Json.field node.members "name"), ("type", Json.field node.members "type")]

/-- The name, the type and the parameters of a node. -/
def wholeNode (node : Json) : Json :=
  .object
    [("name", Json.field node.members "name"), ("type", Json.field node.members "type"),
      ("parameters", (Json.field node.members "parameters").orElse (.object []))]

def summary (name : Json) (nodes : List Json) (connections : Json) : Json :=
  .object [("name", name), ("nodes", .array nodes), ("connections", connections)]

def whole (sketch : Sketch) : Json :=
  summary sketch.name (sketch.nodes.map wholeNode) sketch.connections

def bare (sketch : Sketch) : Json :=
  summary sketch.name (sketch.nodes.map bareNode) sketch.connections

/-- The first nodes without their parameters, and no connections. -/
def cut (sketch : Sketch) (count : Nat) : Json :=
  summary sketch.name ((sketch.nodes.take count).map bareNode) (.object [])

/-- The greatest number of nodes with which a cut fits a limit, or zero. -/
def fittingNodes (sketch : Sketch) (limit : Int) : Nat :=
  Nat.findGreatest (fun count => ((sketch.cut count).size : Int) ≤ limit)
    sketch.nodes.length

/-- As much of a sketch as fits a limit. -/
def fitted (sketch : Sketch) (limit : Int) : Json :=
  if (sketch.whole.size : Int) ≤ limit then sketch.whole
  else if (sketch.bare.size : Int) ≤ limit then sketch.bare
  else sketch.cut (sketch.fittingNodes limit)

variable {sketch : Sketch} {limit : Int}

/-- Only the cut without nodes can be too long, and only when the name alone is. -/
theorem eq_cut_zero_of_too_long (long : limit < (sketch.fitted limit).size) :
    sketch.fitted limit = sketch.cut 0 := by
  rw [fitted] at long ⊢
  split at long
  · omega
  · split at long
    · omega
    · next wholeLong bareLong =>
        rw [if_neg wholeLong, if_neg bareLong]
        by_cases none : sketch.fittingNodes limit = 0
        · rw [none]
        · have fits : ((sketch.cut (sketch.fittingNodes limit)).size : Int) ≤ limit :=
            Nat.findGreatest_of_ne_zero rfl none
          omega

/-! ## What can be written -/

/-- A summary whose parts have no more levels has no more levels.  The list of the
nodes has a level of its own, whatever is in it. -/
theorem levels_summary_le {name connections others : Json} {nodes whole : List Json}
    (each : ∀ node ∈ nodes, ∃ other ∈ whole, node.levels ≤ other.levels)
    (linked : connections.levels ≤ max 1 others.levels) :
    (summary name nodes connections).levels ≤ (summary name whole others).levels := by
  have listed : Json.levelsOfItems nodes ≤ Json.levelsOfItems whole := by
    refine Json.levelsOfItems_le_iff.mpr fun node held => ?_
    rcases each node held with ⟨other, inside, fewer⟩
    exact Nat.le_trans fewer (Json.levelsOfItems_le_iff.mp (Nat.le_refl _) other inside)
  simp only [summary, Json.levels, Json.levelsOfMembers]
  omega

theorem levels_bareNode_le (node : Json) :
    (bareNode node).levels ≤ (wholeNode node).levels := by
  simp only [bareNode, wholeNode, Json.levels, Json.levelsOfMembers]
  omega

theorem levels_bare_le (sketch : Sketch) : sketch.bare.levels ≤ sketch.whole.levels := by
  refine levels_summary_le ?_ (Nat.le_max_right _ _)
  rw [List.forall_mem_map]
  intro node held
  exact ⟨wholeNode node, List.mem_map_of_mem held, levels_bareNode_le node⟩

theorem levels_cut_le (sketch : Sketch) (count : Nat) :
    (sketch.cut count).levels ≤ sketch.whole.levels := by
  refine levels_summary_le ?_ (Nat.le_max_left _ _)
  rw [List.forall_mem_map]
  intro node held
  exact ⟨wholeNode node, List.mem_map_of_mem (List.mem_of_mem_take held),
    levels_bareNode_le node⟩

theorem isWritten_summary {digits? : Option Nat} {name connections : Json}
    {nodes : List Json} :
    (summary name nodes connections).isWritten digits? = true ↔
      name.isWritten digits? = true ∧ (∀ node ∈ nodes, node.isWritten digits? = true) ∧
        connections.isWritten digits? = true := by
  simp [summary, Json.isWritten, Json.membersAreWritten, Json.areWritten_iff]

theorem isWritten_bareNode {digits? : Option Nat} {node : Json}
    (written : (wholeNode node).isWritten digits? = true) :
    (bareNode node).isWritten digits? = true := by
  simp only [wholeNode, bareNode, Json.isWritten, Json.membersAreWritten,
    Bool.and_eq_true, Bool.and_true] at written ⊢
  exact ⟨written.1, written.2.1⟩

variable {depth : Nat} {digits? : Option Nat}

/-- Without the parameters a sketch can be written when the whole of it can. -/
theorem fits_bare (fits : sketch.whole.Fits depth digits?) :
    sketch.bare.Fits depth digits? where
  shallow := Nat.le_trans sketch.levels_bare_le fits.shallow
  written := by
    rcases isWritten_summary.mp fits.written with ⟨named, nodes, linked⟩
    rw [List.forall_mem_map] at nodes
    refine isWritten_summary.mpr ⟨named, ?_, linked⟩
    rw [List.forall_mem_map]
    exact fun node held => isWritten_bareNode (nodes node held)

/-- A cut can be written when the whole sketch can. -/
theorem fits_cut (fits : sketch.whole.Fits depth digits?) (count : Nat) :
    (sketch.cut count).Fits depth digits? where
  shallow := Nat.le_trans (sketch.levels_cut_le count) fits.shallow
  written := by
    rcases isWritten_summary.mp fits.written with ⟨named, nodes, -⟩
    rw [List.forall_mem_map] at nodes
    refine isWritten_summary.mpr ⟨named, ?_, rfl⟩
    rw [List.forall_mem_map]
    exact fun node held => isWritten_bareNode (nodes node (List.mem_of_mem_take held))

end Sketch

/-! ## Summaries of what a workflow stands for -/

section Standing

variable {heap : Heap} {name workflow : Value} {nameJson : Json}
  {members : List (String × Json)} {sketch : Sketch}

theorem Heap.Represents.isDict_resolve {json : Json} {value : Value}
    (represents : heap.Represents json value) :
    (heap.resolve value).isDict = json.isObject := by
  cases represents with
  | @leaf json _ plain same =>
      subst same
      cases json with
      | null | bool | int | float | text | halves => rfl
      | array | object => cases plain
  | array container | object container =>
      rw [container]
      rfl

/-- The nodes of a workflow are missing, null or a list. -/
def Json.ListsNodes (members : List (String × Json)) : Prop :=
  field members "nodes" = .null ∨ ∃ items, field members "nodes" = .array items

/-- The nodes that are described are those of the sketch. -/
theorem exists_graphNodes (nameJson : Json)
    (formed : heap.Represents (.object members) workflow)
    (listed : Json.ListsNodes members) :
    ∃ nodes, graphNodes heap workflow = .ok nodes ∧
      List.Forall₂ heap.Represents (Sketch.ofWorkflow nameJson members).nodes nodes := by
  rcases formed.exists_get "nodes" with ⟨found, got, represents⟩
  have kept : (Json.field members "nodes").orElse (.array []) =
      .array (Json.field members "nodes").items := by
    rcases listed with absent | ⟨_ | ⟨item, rest⟩, present⟩
    · rw [absent]
      rfl
    · rw [present]
      rfl
    · rw [present]
      rfl
  have empty : heap.Represents (.array []) (.plainList []) :=
    heap.represents_ofJson (.array [])
  have read := represents.orElse empty
  rw [kept] at read
  cases read with
  | leaf plain => cases plain
  | @array _ _ parts container each =>
      refine ⟨parts.filter fun node => (heap.resolve node).isDict, ?_, ?_⟩
      · simp only [graphNodes, Except.bind_eq_ok]
        exact ⟨found, got, parts, by rw [container]; rfl, rfl⟩
      · refine List.rel_filter (fun _ _ represents => ?_) each
        exact Bool.eq_iff_iff.mp represents.isDict_resolve.symm

/-- What is told of a node stands for what its JSON tells, with its parameters and
without. -/
structure NodeSummary.Tells (heap : Heap) (node : Json) (summary : NodeSummary) :
    Prop where
  whole : heap.Represents (Sketch.wholeNode node) summary.toValue
  bare : heap.Represents (Sketch.bareNode node) summary.bare.toValue

theorem NodeSummary.exists_tells {node : Json} {value : Value}
    (represents : heap.Represents node value) (object : node.isObject) :
    ∃ summary, ofNode heap value = .ok summary ∧ summary.Tells heap node := by
  cases node with
  | object members =>
      rcases represents.exists_get "name" with ⟨name, nameGot, named⟩
      rcases represents.exists_get "type" with ⟨type, typeGot, typed⟩
      rcases represents.exists_get "parameters" with
        ⟨parameters, parametersGot, given⟩
      refine ⟨⟨name, type, some (heap.orElse parameters (.plainDict []))⟩, ?_, ?_, ?_⟩
      · simp only [ofNode, nameGot, typeGot, parametersGot]
        rfl
      · have kept := given.orElse (heap.represents_ofJson (.object []))
        exact Heap.represents_ofFields rfl
          (.cons named (.cons typed (.cons kept .nil)))
      · exact Heap.represents_ofFields rfl (.cons named (.cons typed .nil))
  | null | bool | int | float | text | halves | array => cases object

/-- A summary stands for a sketch part by part. -/
structure Summary.Tells (heap : Heap) (sketch : Sketch) (summary : Summary) : Prop where
  name : heap.Represents sketch.name summary.name
  nodes : List.Forall₂ (NodeSummary.Tells heap) sketch.nodes summary.nodes
  connections : heap.Represents sketch.connections summary.connections

namespace Summary

variable {summary : Summary} {limit : Int} {writer : Writer}

theorem exists_full (named : heap.Represents nameJson name)
    (formed : heap.Represents (.object members) workflow)
    (listed : Json.ListsNodes members) :
    ∃ summary, full heap name workflow = .ok summary ∧
      summary.Tells heap (.ofWorkflow nameJson members) := by
  rcases exists_graphNodes nameJson formed listed with ⟨nodes, read, standing⟩
  rcases formed.exists_get "connections" with ⟨connections, got, linked⟩
  rcases exists_mapM_of_forall₂ standing fun node held _ represents =>
    NodeSummary.exists_tells represents (List.mem_filter.mp held).2 with
    ⟨found, summarized, telling⟩
  refine ⟨⟨name, found, heap.orElse connections (.plainDict [])⟩, ?_, named, telling,
    linked.orElse (heap.represents_ofJson (.object []))⟩
  simp only [full, Except.bind_eq_ok]
  exact ⟨nodes, read, found, summarized, connections, got, rfl⟩

theorem represents_toValue {nodes : List Json} {connections : Json}
    (named : heap.Represents nameJson summary.name)
    (standing : List.Forall₂ heap.Represents nodes
      (summary.nodes.map NodeSummary.toValue))
    (linked : heap.Represents connections summary.connections) :
    heap.Represents (Sketch.summary nameJson nodes connections) summary.toValue :=
  Heap.represents_ofFields rfl
    (.cons named (.cons (.array rfl standing) (.cons linked .nil)))

theorem Tells.whole (tells : summary.Tells heap sketch) :
    heap.Represents sketch.whole summary.toValue := by
  refine represents_toValue tells.name ?_ tells.connections
  rw [List.forall₂_map_left_iff, List.forall₂_map_right_iff]
  exact tells.nodes.imp fun _ _ node => node.whole

theorem Tells.bare (tells : summary.Tells heap sketch) :
    heap.Represents sketch.bare summary.bare.toValue := by
  refine represents_toValue tells.name ?_ tells.connections
  rw [Summary.bare, List.map_map, List.forall₂_map_left_iff,
    List.forall₂_map_right_iff]
  exact tells.nodes.imp fun _ _ node => node.bare

theorem Tells.cut (tells : summary.Tells heap sketch) (count : Nat) :
    heap.Represents (sketch.cut count) (summary.bare.cut count).toValue := by
  refine represents_toValue tells.name ?_ (heap.represents_ofJson (.object []))
  rw [Summary.cut, Summary.bare, ← List.map_take, List.map_map,
    List.forall₂_map_left_iff, List.forall₂_map_right_iff]
  exact (List.forall₂_take count tells.nodes).imp fun _ _ node => node.bare

/-- The size is that of the JSON text, within the limits of the writer. -/
theorem size_of_represents {json : Json}
    (represents : heap.Represents json summary.toValue)
    (fits : json.Fits writer.jsonDepth writer.digits?) :
    summary.size heap writer = .ok json.size := by
  rw [size, represents.described .spaced fits]
  rfl

/-- The search from a number of nodes down finds the greatest that fits.  The induction
is on this number, as the search is. -/
theorem Tells.longestCut (tells : summary.Tells heap sketch)
    (fits : sketch.whole.Fits writer.jsonDepth writer.digits?) (limit : Int)
    (count : Nat) :
    summary.bare.longestCut heap writer limit count =
      .ok (summary.bare.cut (Nat.findGreatest
        (fun count => ((sketch.cut count).size : Int) ≤ limit) count)) := by
  induction count with
  | zero => rfl
  | succ count induction =>
      have sized := size_of_represents (tells.cut (count + 1)) (Sketch.fits_cut fits _)
      rw [Summary.longestCut, sized, Nat.findGreatest_succ]
      simp only [bind, Except.bind]
      split
      · rfl
      · exact induction

/-- What fits of a summary stands for what fits of its sketch. -/
theorem Tells.exists_fitted (tells : summary.Tells heap sketch)
    (fits : sketch.whole.Fits writer.jsonDepth writer.digits?) (limit : Int) :
    ∃ fitted, summary.fitted heap writer limit = .ok fitted ∧
      heap.Represents (sketch.fitted limit) fitted.toValue := by
  have sized := size_of_represents tells.whole fits
  have bareSized := size_of_represents tells.bare (Sketch.fits_bare fits)
  have searched := tells.longestCut fits limit summary.nodes.length
  rw [← tells.nodes.length_eq] at searched
  simp only [fitted, Sketch.fitted, Except.bind_eq_ok]
  by_cases short : (sketch.whole.size : Int) ≤ limit
  · rw [if_pos short]
    exact ⟨summary, ⟨_, sized, if_pos short⟩, tells.whole⟩
  · rw [if_neg short]
    by_cases bareShort : (sketch.bare.size : Int) ≤ limit
    · rw [if_pos bareShort]
      refine ⟨summary.bare, ⟨_, sized, (if_neg short).trans ?_⟩, tells.bare⟩
      exact Except.bind_eq_ok.mpr ⟨_, bareSized, if_pos bareShort⟩
    · rw [if_neg bareShort]
      refine ⟨_, ⟨_, sized, (if_neg short).trans ?_⟩,
        tells.cut (sketch.fittingNodes limit)⟩
      refine Except.bind_eq_ok.mpr ⟨_, bareSized, (if_neg bareShort).trans ?_⟩
      rw [← tells.nodes.length_eq]
      exact searched

/-- The summary of a workflow stands for what fits of its sketch. -/
theorem exists_ofWorkflow (limit : Int) (named : heap.Represents nameJson name)
    (formed : heap.Represents (.object members) workflow)
    (listed : Json.ListsNodes members)
    (fits : (Sketch.ofWorkflow nameJson members).whole.Fits writer.jsonDepth
      writer.digits?) :
    ∃ summary, ofWorkflow heap writer limit name workflow = .ok summary ∧
      heap.Represents ((Sketch.ofWorkflow nameJson members).fitted limit)
        summary.toValue := by
  rcases exists_full named formed listed with ⟨summary, full, tells⟩
  rcases tells.exists_fitted fits limit with ⟨fitted, searched, represents⟩
  refine ⟨fitted, ?_, represents⟩
  rw [ofWorkflow, full]
  exact searched

/-- A workflow that stands for JSON, whose nodes are a list, null or missing, is
summarized by as much of its sketch as fits the limit: all of it exactly when that fits,
otherwise everything but the parameters when that fits, and otherwise no connections and
the longest beginning of the nodes that fits.  Names, types and their order stay, and a
summary is too long only when nothing but the name is left in it.  The whole summary is
written first, and so it must be within the limits of the writer, whatever these are. -/
theorem fits_sketch (heap : Heap) (writer : Writer) (limit : Int)
    (named : heap.Represents nameJson name)
    (formed : heap.Represents (.object members) workflow)
    (listed : Json.ListsNodes members)
    (fits : (Sketch.ofWorkflow nameJson members).whole.Fits writer.jsonDepth
      writer.digits?) :
    ∃ summary, ofWorkflow heap writer limit name workflow = .ok summary ∧
      heap.Represents ((Sketch.ofWorkflow nameJson members).fitted limit)
        summary.toValue ∧
      (limit < ((Sketch.ofWorkflow nameJson members).fitted limit).size →
        (Sketch.ofWorkflow nameJson members).fitted limit =
          Sketch.summary nameJson [] (.object [])) := by
  rcases exists_ofWorkflow limit named formed listed fits with
    ⟨summary, made, represents⟩
  exact ⟨summary, made, represents, Sketch.eq_cut_zero_of_too_long⟩

end Summary

end Standing

/-- A workflow of two nodes and a number among them.  The parameters of the second node
are the dictionary of the connections. -/
def Heap.relay : Heap :=
  ⟨#[.ofFields [("nodes", .shared 1), ("connections", .shared 4)],
    .plainList [.shared 2, .int 5, .shared 3],
    .ofFields [("name", .text "Start"), ("type", .text "cron")],
    .ofFields [("name", .text "Send"), ("type", .text "mail"), ("parameters", .shared 4)],
    .ofFields [("Start", .text "Send")]]⟩

def Json.relayMembers : List (String × Json) :=
  [("nodes", .array
      [.object [("name", .text "Start"), ("type", .text "cron")], .int 5,
        .object [("name", .text "Send"), ("type", .text "mail"),
          ("parameters", .object [("Start", .text "Send")])]]),
    ("connections", .object [("Start", .text "Send")])]

theorem Heap.represents_relay :
    Heap.relay.Represents (.object Json.relayMembers) (.shared 0) := by
  have hop : Heap.relay.Represents (.object [("Start", .text "Send")]) (.shared 4) :=
    .object rfl rfl (.cons (.leaf rfl rfl) .nil)
  have start : Heap.relay.Represents
      (.object [("name", .text "Start"), ("type", .text "cron")]) (.shared 2) :=
    .object rfl rfl (.cons (.leaf rfl rfl) (.cons (.leaf rfl rfl) .nil))
  have send : Heap.relay.Represents
      (.object [("name", .text "Send"), ("type", .text "mail"),
        ("parameters", .object [("Start", .text "Send")])]) (.shared 3) :=
    .object rfl rfl
      (.cons (.leaf rfl rfl) (.cons (.leaf rfl rfl) (.cons hop .nil)))
  have five := Heap.relay.represents_ofJson (.int 5)
  have listed := List.Forall₂.cons start (.cons five (.cons send .nil))
  exact .object rfl rfl (.cons (.array rfl listed) (.cons hop .nil))

def Sketch.relay : Sketch :=
  .ofWorkflow (.text "Relay") Json.relayMembers

theorem Summary.relay_cut_after_first_node :
    (Heap.relay.Represents (.object Json.relayMembers) (.shared 0) ∧
      Json.ListsNodes Json.relayMembers ∧
      Sketch.relay.whole.Fits Writer.usual.jsonDepth Writer.usual.digits?) ∧
      ∃ summary, ofWorkflow Heap.relay Writer.usual 90 (.text "Relay") (.shared 0) =
          .ok summary ∧
        Heap.relay.Represents (Sketch.relay.cut 1) summary.toValue := by
  have listed : Json.ListsNodes Json.relayMembers := .inr ⟨_, rfl⟩
  have fits : Sketch.relay.whole.Fits Writer.usual.jsonDepth Writer.usual.digits? := by
    decide +kernel
  have wholeLong : ¬(Sketch.relay.whole.size : Int) ≤ 90 := by decide +kernel
  have bareLong : ¬(Sketch.relay.bare.size : Int) ≤ 90 := by decide +kernel
  have one : Sketch.relay.fittingNodes 90 = 1 := by decide +kernel
  have cut : Sketch.relay.fitted 90 = Sketch.relay.cut 1 := by
    rw [Sketch.fitted, if_neg wholeLong, if_neg bareLong, one]
  have named := Heap.relay.represents_ofJson (.text "Relay")
  rcases fits_sketch Heap.relay Writer.usual 90 named Heap.represents_relay listed
    fits with ⟨summary, made, represents, -⟩
  change Heap.relay.Represents (Sketch.relay.fitted 90) _ at represents
  rw [cut] at represents
  exact ⟨⟨Heap.represents_relay, listed, fits⟩, summary, made, represents⟩

/-! ## Beyond the limits of a writer -/

/-- Arrays of one item within each other, around null. -/
def Json.nest : Nat → Json
  | 0 => .null
  | levels + 1 => .array [nest levels]

namespace Heap

def story : Nat → Value
  | 0 => .plainList [.null]
  | below + 1 => .plainList [.shared below]

/-- Lists in a heap, each of them with the one before it as its only item. -/
def tower (levels : Nat) : Heap :=
  ⟨((List.range levels).map story).toArray⟩

variable {levels below : Nat}

theorem resolve_tower (within : below < levels) :
    (tower levels).resolve (.shared below) = story below := by
  simp [tower, resolve, within]

theorem represents_tower (within : below < levels) :
    (tower levels).Represents (.nest (below + 1)) (.shared below) := by
  induction below with
  | zero => exact .array (resolve_tower within) (.cons (.leaf rfl rfl) .nil)
  | succ below induction =>
      exact .array (resolve_tower within)
        (.cons (induction (Nat.lt_of_succ_lt within)) .nil)

/-- A way leads through higher stories only. -/
def Descends (way : Trail) (below : Nat) : Prop :=
  ∀ identity, way.returns identity = true → below < identity

theorem Descends.new {way : Trail} (descends : Descends way below) :
    way.returns below = false := by
  rw [← Bool.not_eq_true]
  exact fun back => Nat.lt_irrefl _ (descends below back)

theorem Descends.enter {way : Trail} (descends : Descends way (below + 1))
    (container : Value) : Descends (way.enter (below + 1) container) below := by
  intro identity back
  rcases returns_enter back with before | rfl
  · exact Nat.lt_of_succ_lt (descends identity before)
  · exact Nat.lt_succ_self _

theorem follows_story {follow : Value → Bool} (follows : Follows follow) (below : Nat) :
    follow (story below) = true := by
  cases below <;> exact follows.lists _

theorem unfoldAt_tower {follow : Value → Bool} (follows : Follows follow) {room : Nat}
    {way : Trail} (within : below < levels) (new : way.returns below = false) :
    (tower levels).unfoldAt follow (room + 1) way (.shared below) =
      (tower levels).unfoldAt follow room (way.enter below (story below))
        (story below) := by
  rw [unfoldAt, resolve_tower within]
  simp [follows_story follows, new]

/-- Without room a story stays a reference. -/
theorem unfoldAt_tower_zero {follow : Value → Bool} (follows : Follows follow)
    {way : Trail} (within : below < levels) (new : way.returns below = false) :
    (tower levels).unfoldAt follow 0 way (.shared below) = .shared below := by
  rw [unfoldAt, resolve_tower within]
  simp [follows_story follows, new]

theorem follows_isSequential : Follows Value.isSequential :=
  ⟨fun _ => rfl, fun _ => rfl⟩

/-- Writing a tower gives up where there is no room for its lower stories.  The
induction is on the room. -/
theorem serialize_tower (writer : Writer) (manner : Value.Manner) (room : Nat) :
    ∀ {below : Nat} {way : Trail}, below < levels → room ≤ below → Descends way below →
      ((tower levels).unfoldAt Value.isSequential room way
        (.shared below)).serialize manner (fun other =>
          if ((tower levels).resolve other).isSequential then .error .tooDeep
          else ((tower levels).display writer other).map Json.ofWide) =
        .error .tooDeep := by
  induction room with
  | zero =>
      intro below way within _ descends
      rw [unfoldAt_tower_zero follows_isSequential within descends.new]
      change (if ((tower levels).resolve (.shared below)).isSequential then _ else _) = _
      rw [resolve_tower within]
      cases below <;> rfl
  | succ room induction =>
      intro below way within deep descends
      cases below with
      | zero => cases deep
      | succ below =>
          have inner := induction (Nat.lt_of_succ_lt within)
            (Nat.le_of_succ_le_succ deep) (descends.enter (story (below + 1)))
          rw [unfoldAt_tower follows_isSequential within descends.new]
          simp only [story, unfoldAt, unfoldItems, Value.serialize,
            Value.serializeItems] at inner ⊢
          rw [inner]
          rfl

/-- What a tower stands for has no integers. -/
theorem isWritten_nest (digits? : Option Nat) (levels : Nat) :
    (Json.nest levels).isWritten digits? = true := by
  induction levels with
  | zero => rfl
  | succ levels induction =>
      rw [Json.nest, Json.isWritten, Json.areWritten, induction]
      rfl

/-- A workflow with one node, which has some parameters. -/
def flowOf (parameters : Value) : Value :=
  .ofFields [("nodes", .plainList [.ofFields
    [("name", .text "Send"), ("type", .text "mail"), ("parameters", parameters)]])]

def flowMembersOf (parameters : Json) : List (String × Json) :=
  [("nodes", .array [.object
    [("name", .text "Send"), ("type", .text "mail"), ("parameters", parameters)]])]

variable {heap : Heap} {writer : Writer} {parameters : Value} {json : Json}

theorem represents_flowOf (given : heap.Represents json parameters) :
    heap.Represents (.object (flowMembersOf json)) (flowOf parameters) := by
  refine represents_ofFields rfl (.cons (.array rfl (.cons ?_ .nil)) .nil)
  exact represents_ofFields rfl (.cons (.leaf rfl rfl) (.cons (.leaf rfl rfl)
    (.cons given .nil)))

theorem whole_flowMembersOf (name : String) (present : json.isEmpty = false) :
    (Sketch.ofWorkflow (.text name) (flowMembersOf json)).whole =
      Sketch.summary (.text name) [.object
        [("name", .text "Send"), ("type", .text "mail"), ("parameters", json)]]
        (.object []) := by
  have kept : json.orElse (.object []) = json := by
    rw [Json.orElse, present]
    rfl
  calc (Sketch.ofWorkflow (.text name) (flowMembersOf json)).whole
      = Sketch.summary (.text name) [.object
          [("name", .text "Send"), ("type", .text "mail"),
            ("parameters", json.orElse (.object []))]] (.object []) := rfl
    _ = _ := by rw [kept]

theorem isWritten_whole_flowMembersOf {digits? : Option Nat} (name : String)
    (present : json.isEmpty = false) (written : json.isWritten digits? = true) :
    (Sketch.ofWorkflow (.text name) (flowMembersOf json)).whole.isWritten digits? =
      true := by
  rw [whole_flowMembersOf name present, Sketch.isWritten_summary]
  refine ⟨rfl, ?_, rfl⟩
  simp [Json.isWritten, Json.membersAreWritten, written]

/-- The whole summary of the workflow. -/
def summaryOf (name : String) (parameters : Value) : Summary where
  name := .text name
  nodes := [⟨.text "Send", .text "mail", some parameters⟩]
  connections := .plainDict []

theorem full_flowOf (name : String)
    (present : (heap.resolve parameters).isEmpty = false) :
    Summary.full heap (.text name) (flowOf parameters) =
      .ok (summaryOf name parameters) := by
  have kept : heap.orElse parameters (.plainDict []) = parameters := by
    rw [orElse, present]
    rfl
  calc Summary.full heap (.text name) (flowOf parameters)
      = .ok ⟨.text name, [⟨.text "Send", .text "mail",
          some (heap.orElse parameters (.plainDict []))⟩], .plainDict []⟩ := rfl
    _ = .ok (summaryOf name parameters) := by rw [kept, summaryOf]

/-- Without its parameters in writing the workflow has no summary. -/
theorem ofWorkflow_flowOf (name : String) (limit : Int) {fault : Fault}
    (present : (heap.resolve parameters).isEmpty = false)
    (unwritten : (heap.opened writer.jsonDepth parameters).serialize
      ⟨.eager, writer.digits?⟩ (fun other =>
        if (heap.resolve other).isSequential then .error .tooDeep
        else (heap.display writer other).map Json.ofWide) = .error fault) :
    Summary.ofWorkflow heap writer limit (.text name) (flowOf parameters) =
      .error fault := by
  have unsized : (summaryOf name parameters).size heap writer = .error fault := by
    rw [opened] at unwritten
    rw [Summary.size, described, opened]
    simp only [Summary.toValue, summaryOf, Value.ofFields, NodeSummary.toValue,
      Option.toList, List.map_cons, List.map_nil, List.cons_append, List.nil_append,
      unfoldAt, unfoldEntries, unfoldItems, Json.Layout.walk, Value.serialize,
      Value.serializeEntries, Value.serializeItems, unwritten]
    rfl
  rw [Summary.ofWorkflow, full_flowOf name present]
  change Summary.fitted _ _ _ _ = _
  rw [Summary.fitted, unsized]
  rfl

theorem isEmpty_resolve_tower (within : below < levels) :
    ((tower levels).resolve (.shared below)).isEmpty = false := by
  rw [resolve_tower within]
  cases below <;> rfl

/-- A workflow with parameters that are nested too deeply has no summary. -/
theorem ofWorkflow_tower (name : String) (limit : Int)
    (deep : writer.jsonDepth ≤ below) :
    Summary.ofWorkflow (tower (below + 1)) writer limit (.text name)
      (flowOf (.shared below)) = .error .tooDeep := by
  have begun : Descends {} below := fun _ back => nomatch back
  exact ofWorkflow_flowOf name limit (isEmpty_resolve_tower (Nat.lt_succ_self _))
    (serialize_tower writer _ _ (Nat.lt_succ_self below) deep begun)

/-- The least integer that has more digits than are written. -/
theorem not_isWritten_tenTo (digits : Nat) :
    Scalar.isWritten (some digits) (Number.tenTo digits) = false := by
  simp [Scalar.isWritten]

theorem ofWorkflow_tenTo (heap : Heap) (name : String) (limit : Int) {digits : Nat}
    (limited : writer.digits? = some digits) :
    Summary.ofWorkflow heap writer limit (.text name)
      (flowOf (.int (Number.tenTo digits))) = .error .badValue := by
  refine ofWorkflow_flowOf name limit ?_ ?_
  · have positive : Number.tenTo digits ≠ 0 := Nat.ne_of_gt (Nat.pow_pos (by decide))
    simp [resolve, Value.int, Value.isEmpty, Scalar.isEmpty, positive]
  · rw [limited, opened]
    simp only [Value.int, unfoldAt, Value.serialize, Scalar.intText, not_isWritten_tenTo]
    rfl

end Heap

/-- Neither limit of a writer can be left out: a workflow that is nested more deeply has
no summary, and neither has one with an integer of more digits. -/
theorem Summary.no_summary_beyond_limits :
    (¬∀ (heap : Heap) (limit : Int) (name workflow : Value) (nameJson : Json)
      (members : List (String × Json)), heap.Represents nameJson name →
        heap.Represents (.object members) workflow → Json.ListsNodes members →
        (Sketch.ofWorkflow nameJson members).whole.isWritten Writer.usual.digits? →
          ∃ summary, ofWorkflow heap Writer.usual limit name workflow = .ok summary) ∧
    ¬∀ (heap : Heap) (limit : Int) (name workflow : Value) (nameJson : Json)
      (members : List (String × Json)), heap.Represents nameJson name →
        heap.Represents (.object members) workflow → Json.ListsNodes members →
        (Sketch.ofWorkflow nameJson members).whole.levels ≤ Writer.usual.jsonDepth →
          ∃ summary, ofWorkflow heap Writer.usual limit name workflow = .ok summary := by
  constructor
  · intro always
    have named := (Heap.tower 2000).represents_ofJson (.text "Nightly")
    have formed := Heap.represents_flowOf
      (Heap.represents_tower (Nat.lt_succ_self 1999))
    have written : (Sketch.ofWorkflow (.text "Nightly")
        (Heap.flowMembersOf (.nest 2000))).whole.isWritten Writer.usual.digits? :=
      Heap.isWritten_whole_flowMembersOf "Nightly" rfl (Heap.isWritten_nest _ 2000)
    rcases always _ 100 _ _ _ _ named formed (.inr ⟨_, rfl⟩) written with ⟨summary, made⟩
    have failed := Heap.ofWorkflow_tower "Nightly" 100
      (show Writer.usual.jsonDepth ≤ 1999 by decide)
    cases made.symm.trans failed
  · intro always
    have named := Heap.empty.represents_ofJson (.text "Nightly")
    have formed := Heap.represents_flowOf
      (Heap.empty.represents_ofJson (.int (Number.tenTo Number.digitLimit)))
    rcases always _ 100 _ _ _ _ named formed (.inr ⟨_, rfl⟩) (by decide +kernel) with
      ⟨summary, made⟩
    have failed := Heap.ofWorkflow_tenTo .empty "Nightly" 100
      (show Writer.usual.digits? = some Number.digitLimit from rfl)
    cases made.symm.trans failed

end WorkflowExchange
