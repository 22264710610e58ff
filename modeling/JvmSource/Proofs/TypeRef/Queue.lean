import Mathlib.Logic.Function.Basic
import Mathlib.Tactic.Common
import JvmSource.Proofs.TypeRef.Cuts
import JvmSource.Proofs.TypeRef.Descent

/-!
# Reading with one queue

Instead of row by row, references can be read with a single queue: each reference that is taken up
puts its arguments at the end and remembers their places. The queue is then worked off from its end,
and each reference takes its arguments out of their places.

The places that are linked are those from 1 on, each of them once and in order (`places_enqueue`),
so every reference but the first is an argument of exactly one other, which stands before it. When a
reference is put together, what stands in the places are the references that were waiting in the
queue when it was taken up (`putAll_enqueue`), so each finds all of its arguments, and what is read
is what descending reads (`readQueue_eq`).
-/

namespace JvmSource.TypeRef

/-- A cut reference in the queue, at a nesting depth. -/
structure Waiting where
  cut : Cut
  depth : Nat

namespace Waiting

/-- The cut arguments, unless they lie too deep to be read. -/
def args? (waiting : Waiting) : Option (Bracket × List (Cut × Bool)) :=
  if waiting.depth < maxDepth then cutArgs? waiting.cut.suffix else none

/-- The reference that descending reads. -/
def type (waiting : Waiting) : TypeRef := descend (maxDepth - waiting.depth) waiting.cut

end Waiting

/-- A reference that has been taken up, with the places of its arguments in the queue and the marks
of these. -/
structure Node where
  cut : Cut
  links : Option (Bracket × List (Nat × Bool))

/-- Arguments linked to consecutive places. -/
def linkFrom (place : Nat) : List (Cut × Bool) → List (Nat × Bool)
  | [] => []
  | arg :: args => (place, arg.2) :: linkFrom (place + 1) args

/-- The references that arguments put into the queue. -/
def enter (depth : Nat) (args : List (Cut × Bool)) : List Waiting := args.map fun arg => ⟨arg.1, depth⟩

/-! ## Why the queue runs empty -/

/-- What a queue weighs; a suffix weighs more than its arguments. -/
def queueWeight : List Waiting → Nat
  | [] => 0
  | waiting :: queue => waiting.cut.suffix.length + 1 + queueWeight queue

theorem queueWeight_append (first second : List Waiting) :
    queueWeight (first ++ second) = queueWeight first + queueWeight second := by
  induction first with
  | nil => simp [queueWeight]
  | cons waiting queue ih =>
    rw [List.cons_append, queueWeight, queueWeight, ih]
    omega

/-- The suffix of an argument is shorter than the piece it is cut from. -/
theorem length_cutArg?_le {piece : Text} {arg : Cut × Bool} (h : cutArg? piece = some arg) :
    arg.1.suffix.length + 1 ≤ piece.length := by
  obtain ⟨cut, nullable⟩ := arg
  obtain ⟨hwell, htrim⟩ := cutArg?_eq_some_iff.mp h
  obtain ⟨before, after, -, -, hpiece⟩ := Text.exists_trim piece
  obtain ⟨first, rest, hpath, -⟩ := hwell.path.exists_cons
  have hlength := congrArg List.length hpiece
  simp only [htrim, Cut.text, hpath, List.length_append, List.length_cons] at hlength
  show cut.suffix.length + 1 ≤ piece.length
  omega

/-- Arguments weigh no more than the text they are cut from. -/
theorem queueWeight_enter_le {pieces : List Text} {args : List (Cut × Bool)} (depth : Nat)
    (h : pieces.mapM cutArg? = some args) :
    queueWeight (enter depth args) ≤ ([','].intercalate pieces).length := by
  induction pieces generalizing args with
  | nil =>
    cases h
    simp [enter, queueWeight]
  | cons piece pieces ih =>
    simp only [List.mapM_cons, bind, Option.bind_eq_some_iff] at h
    obtain ⟨arg, harg, args, hargs, heq⟩ := h
    cases heq
    have hpiece := length_cutArg?_le harg
    have hpieces := ih hargs
    -- the comma in front of the other pieces only adds to the text
    have hjoin : piece.length + ([','].intercalate pieces).length ≤
        ([','].intercalate (piece :: pieces)).length := by
      cases pieces with
      | nil => simp [List.intercalate]
      | cons piece' pieces =>
        rw [List.intercalate_cons_cons]
        simp only [List.length_append]
        omega
    have hweight : queueWeight (enter depth (arg :: args)) =
        arg.1.suffix.length + 1 + queueWeight (enter depth args) := rfl
    omega

/-- The arguments of a reference weigh less than the reference. -/
theorem queueWeight_args?_lt {waiting : Waiting} {bracket : Bracket} {args : List (Cut × Bool)}
    (depth : Nat) (h : waiting.args? = some (bracket, args)) :
    queueWeight (enter depth args) < waiting.cut.suffix.length + 1 := by
  unfold Waiting.args? at h
  split at h
  · obtain ⟨inner, pieces, hsuffix, hpieces, hcuts⟩ := cutArgs?_eq_some_iff.mp h
    obtain ⟨-, -, -, -, -, hjoin⟩ := pieces_of_topLevelPieces? hpieces
    have hargs := queueWeight_enter_le depth hcuts
    rw [hjoin] at hargs
    rw [hsuffix]
    simp only [List.length_cons, List.length_append]
    omega
  · exact absurd h (by simp)

/-! ## The queue -/

/-- Takes up the references that wait in the queue, one after the other; the first of them stands at
`place`. Arguments are put at the end. -/
def enqueue (place : Nat) : List Waiting → List Node
  | [] => []
  | waiting :: queue =>
    match hargs : waiting.args? with
    | none => ⟨waiting.cut, none⟩ :: enqueue (place + 1) queue
    | some (bracket, args) =>
      ⟨waiting.cut, some (bracket, linkFrom (place + 1 + queue.length) args)⟩ ::
        enqueue (place + 1) (queue ++ enter (waiting.depth + 1) args)
termination_by queue => queueWeight queue
decreasing_by
  · simp [queueWeight]
  · have := queueWeight_args?_lt (waiting.depth + 1) hargs
    rw [queueWeight_append, queueWeight]
    omega

/-- The places that a node links to. -/
def Node.places (node : Node) : List Nat :=
  match node.links with
  | none => []
  | some (_, links) => links.map Prod.fst

theorem enqueue_of_none {place : Nat} {waiting : Waiting} {queue : List Waiting}
    (h : waiting.args? = none) :
    enqueue place (waiting :: queue) = ⟨waiting.cut, none⟩ :: enqueue (place + 1) queue := by
  rw [enqueue]
  split
  · rfl
  · next hargs => exact absurd (h.symm.trans hargs) (by simp)

theorem enqueue_of_some {place : Nat} {waiting : Waiting} {queue : List Waiting}
    {bracket : Bracket} {args : List (Cut × Bool)} (h : waiting.args? = some (bracket, args)) :
    enqueue place (waiting :: queue) =
      ⟨waiting.cut, some (bracket, linkFrom (place + 1 + queue.length) args)⟩ ::
        enqueue (place + 1) (queue ++ enter (waiting.depth + 1) args) := by
  rw [enqueue]
  split
  · next hargs => exact absurd (h.symm.trans hargs) (by simp)
  · next bracket' args' hargs =>
    cases h.symm.trans hargs
    rfl

theorem length_enter (depth : Nat) (args : List (Cut × Bool)) :
    (enter depth args).length = args.length := by simp [enter]

/-- Arguments are linked to consecutive places. -/
theorem places_linkFrom (place : Nat) (args : List (Cut × Bool)) :
    (linkFrom place args).map Prod.fst = List.range' place args.length := by
  induction args generalizing place with
  | nil => rfl
  | cons arg args ih => rw [linkFrom, List.map_cons, ih, List.length_cons, List.range'_succ]

/-- All that waits is taken up, and the places that are linked on the way are those after it. -/
theorem places_enqueue (place : Nat) (queue : List Waiting) :
    ∃ added, (enqueue place queue).length = queue.length + added ∧
      (enqueue place queue).flatMap Node.places = List.range' (place + queue.length) added := by
  induction place, queue using enqueue.induct with
  | case1 place => exact ⟨0, by simp [enqueue]⟩
  | case2 place waiting queue hargs ih =>
    obtain ⟨added, hlength, hplaces⟩ := ih
    rw [enqueue_of_none hargs, List.flatMap_cons, hplaces, List.length_cons, List.length_cons,
      hlength]
    refine ⟨added, by omega, ?_⟩
    show List.range' (place + 1 + queue.length) added = _
    rw [Nat.add_right_comm, Nat.add_assoc]
  | case3 place waiting queue bracket args hargs ih =>
    obtain ⟨added, hlength, hplaces⟩ := ih
    rw [List.length_append, length_enter] at hlength hplaces
    rw [enqueue_of_some hargs, List.flatMap_cons, hplaces, List.length_cons, List.length_cons,
      hlength]
    refine ⟨args.length + added, by omega, ?_⟩
    -- the places of the arguments come right before those that they link to in turn
    show (linkFrom (place + 1 + queue.length) args).map Prod.fst ++ _ = _
    rw [places_linkFrom, ← Nat.add_assoc (place + 1), List.range'_append_1, Nat.add_right_comm place,
      Nat.add_assoc place]

/-! ## Putting references together -/

/-- What stands in the places of the queue: references that have been put together and not been
taken out. -/
abbrev Places := Nat → Option TypeRef

/-- Takes the arguments of a reference out of their places. There are none if one is missing. -/
def takeArgs (places : Places) : List (Nat × Bool) → Option (List TypeArg) × Places
  | [] => (some [], places)
  | (place, nullable) :: links =>
    match places place with
    | none => (none, places)
    | some type =>
      let (args, rest) := takeArgs (Function.update places place none) links
      (args.map (.mk type nullable :: ·), rest)

/-- Puts a reference together. A reference of which arguments are missing keeps its suffix as
text. -/
def Node.put (node : Node) (place : Nat) (places : Places) : Places :=
  match node.links with
  | none => Function.update places place (some (.mk node.cut.names (.ofText node.cut.suffix)))
  | some (bracket, links) =>
    match takeArgs places links with
    | (some args, rest) =>
      Function.update rest place (some (.mk node.cut.names (.plain bracket args)))
    | (none, rest) =>
      Function.update rest place (some (.mk node.cut.names (.verbatim node.cut.suffix)))

/-- Puts all references together, the last one first. -/
def putAll (place : Nat) : List Node → Places
  | [] => fun _ => none
  | node :: nodes => node.put place (putAll (place + 1) nodes)

/-- Whether no reference misses an argument when it is put together. -/
def NothingMissing (place : Nat) : List Node → Prop
  | [] => True
  | node :: nodes =>
    NothingMissing (place + 1) nodes ∧
      ∀ bracket links, node.links = some (bracket, links) →
        (takeArgs (putAll (place + 1) nodes) links).1.isSome = true

/-- The reference that is read with the queue; none if there is none in the first place. -/
def readQueue (cut : Cut) : Option TypeRef := putAll 0 (enqueue 0 [⟨cut, 0⟩]) 0

/-- References in consecutive places, and nothing elsewhere. -/
def placesOf (place : Nat) (types : List TypeRef) : Places :=
  fun other => if other < place then none else types[other - place]?

/-- A reference is put before those in the places after it. -/
theorem update_placesOf (place : Nat) (type : TypeRef) (types : List TypeRef) :
    Function.update (placesOf (place + 1) types) place (some type) =
      placesOf place (type :: types) := by
  funext other
  by_cases hsame : other = place
  · subst hsame
    simp [placesOf]
  · rw [Function.update_of_ne hsame]
    unfold placesOf
    by_cases hbefore : other < place
    · rw [if_pos hbefore, if_pos (by omega)]
    · rw [if_neg hbefore, if_neg (by omega)]
      obtain ⟨offset, rfl⟩ : ∃ offset, other = place + 1 + offset := ⟨other - (place + 1), by omega⟩
      rw [show place + 1 + offset - place = offset + 1 by omega, Nat.add_sub_cancel_left]
      rfl

/-- Arguments that stand in consecutive places are taken out, all of them and nothing else. -/
theorem takeArgs_linkFrom (read : Cut → TypeRef) (places : Places) (place : Nat)
    (args : List (Cut × Bool))
    (h : ∀ offset, offset < args.length →
      places (place + offset) = (args[offset]?).map fun arg => read arg.1) :
    takeArgs places (linkFrom place args) =
      (some (args.map fun arg => .mk (read arg.1) arg.2),
        fun other => if place ≤ other ∧ other < place + args.length then none else places other) := by
  induction args generalizing places place with
  | nil =>
    rw [linkFrom, takeArgs]
    congr 1
    funext other
    rw [if_neg (by simp only [List.length_nil]; omega)]
  | cons arg args ih =>
    have hfirst : places place = some (read arg.1) := h 0 (by simp)
    -- taking the first argument leaves the places behind it as they are
    have hothers : ∀ offset, offset < args.length →
        Function.update places place none (place + 1 + offset) =
          (args[offset]?).map fun arg => read arg.1 := by
      intro offset hoffset
      rw [Function.update_of_ne (by omega), show place + 1 + offset = place + (offset + 1) by omega,
        h (offset + 1) (by simpa using hoffset)]
      rfl
    simp only [linkFrom, takeArgs, hfirst, ih _ _ hothers, Option.map_some, List.map_cons]
    congr 1
    funext other
    -- what has been taken out is the first place and those behind it
    by_cases hsame : other = place
    · subst hsame
      simp
    · rw [Function.update_of_ne hsame, List.length_cons]
      have hrange : place + 1 ≤ other ∧ other < place + 1 + args.length ↔
          place ≤ other ∧ other < place + (args.length + 1) := by omega
      simp only [hrange]

/-- Arguments at the end of a queue are taken out, and what is before them stays. -/
theorem takeArgs_enter (place : Nat) (queue : List Waiting) (depth : Nat)
    (args : List (Cut × Bool)) :
    takeArgs (placesOf place ((queue ++ enter depth args).map Waiting.type))
        (linkFrom (place + queue.length) args) =
      (some (args.map fun arg => .mk (Waiting.mk arg.1 depth).type arg.2),
        placesOf place (queue.map Waiting.type)) := by
  rw [takeArgs_linkFrom fun cut => (Waiting.mk cut depth).type]
  · congr 1
    funext other
    unfold placesOf
    by_cases hbefore : other < place
    · rw [if_neg (by omega), if_pos hbefore, if_pos hbefore]
    · rw [if_neg hbefore, if_neg hbefore, List.map_append]
      by_cases hinside : other < place + queue.length
      · rw [if_neg (by omega), List.getElem?_append_left (by rw [List.length_map]; omega)]
      · -- behind the queue there were the arguments only
        rw [List.getElem?_eq_none (l := queue.map _) (by rw [List.length_map]; omega)]
        split
        · rfl
        · rw [List.getElem?_eq_none]
          simp only [List.length_append, List.length_map, length_enter]
          omega
  · intro offset hoffset
    unfold placesOf
    rw [if_neg (by omega), List.map_append,
      List.getElem?_append_right (by rw [List.length_map]; omega), List.length_map,
      show place + queue.length + offset - place - queue.length = offset by omega, enter,
      List.map_map, List.getElem?_map]
    rfl

/-! ## What the queue reads -/

theorem type_of_none {waiting : Waiting} (h : waiting.args? = none) :
    waiting.type = .mk waiting.cut.names (.ofText waiting.cut.suffix) := by
  unfold Waiting.args? at h
  unfold Waiting.type
  split at h
  · obtain ⟨rows, hrows⟩ : ∃ rows, maxDepth - waiting.depth = rows + 1 :=
      ⟨maxDepth - waiting.depth - 1, by omega⟩
    rw [hrows, descend, h]
  · rw [show maxDepth - waiting.depth = 0 by omega, descend]

theorem type_of_some {waiting : Waiting} {bracket : Bracket} {args : List (Cut × Bool)}
    (h : waiting.args? = some (bracket, args)) :
    waiting.type = .mk waiting.cut.names
      (.plain bracket (args.map fun arg => .mk (Waiting.mk arg.1 (waiting.depth + 1)).type arg.2)) := by
  unfold Waiting.args? at h
  split at h
  · have hrows : maxDepth - waiting.depth = maxDepth - (waiting.depth + 1) + 1 := by omega
    rw [Waiting.type, hrows, descend, h]
    rfl
  · exact absurd h (by simp)

/-- Putting together what has been taken up gives the references that were waiting, in their places,
and nothing else; and nothing is missing on the way. The induction is on the run of the queue: what
it holds after a turn is put together before the reference that was taken up in that turn. -/
theorem putAll_enqueue (place : Nat) (queue : List Waiting) :
    putAll place (enqueue place queue) = placesOf place (queue.map Waiting.type) ∧
      NothingMissing place (enqueue place queue) := by
  induction place, queue using enqueue.induct with
  | case1 place =>
    rw [enqueue]
    refine ⟨?_, trivial⟩
    funext other
    simp [putAll, placesOf]
  | case2 place waiting queue hargs ih =>
    obtain ⟨hput, hmissing⟩ := ih
    rw [enqueue_of_none hargs]
    refine ⟨?_, hmissing, ?_⟩
    · rw [putAll, hput, Node.put, List.map_cons, type_of_none hargs, update_placesOf]
    · intro bracket links hlinks
      exact absurd hlinks (by simp)
  | case3 place waiting queue bracket args hargs ih =>
    obtain ⟨hput, hmissing⟩ := ih
    have htake := takeArgs_enter (place + 1) queue (waiting.depth + 1) args
    rw [enqueue_of_some hargs]
    refine ⟨?_, hmissing, ?_⟩
    · rw [putAll, hput, Node.put]
      simp only [htake]
      rw [List.map_cons, type_of_some hargs, update_placesOf]
    · intro bracket' links hlinks
      cases hlinks
      rw [hput, htake]
      rfl

/-- With the queue a reference is read as by descending. -/
theorem readQueue_eq (cut : Cut) : readQueue cut = some (descend maxDepth cut) := by
  rw [readQueue, (putAll_enqueue 0 [⟨cut, 0⟩]).1]
  rfl

end JvmSource.TypeRef
