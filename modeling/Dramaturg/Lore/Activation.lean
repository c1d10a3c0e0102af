import Dramaturg.Lore.Entry

set_option autoImplicit false

/-! # Activating lore

Which entries a window of messages brings into the prompt: the constant ones, then those whose keys
a message mentions, then those whose keys the content of an active entry mentions. Entries are
named by their places in the catalog, and each is activated once. The last phase works through a
stack of active entries; every step takes one off the stack and puts on it only entries that were
not active before, so the two numbers together fall (`activate_step`). -/

namespace Dramaturg

namespace Activation

variable (lore : List Lore)

/-- The places of the entries that are not active yet, ascending. -/
def inactive (active : List Nat) : List Nat :=
  (List.range lore.length).filter fun i => !active.contains i

/-- Whether the entry at a place has a property. -/
def holdsAt (p : Lore → Bool) (i : Nat) : Bool :=
  (lore[i]?).any p

/-- The places of the inactive entries with a property, ascending. -/
def newly (p : Lore → Bool) (active : List Nat) : List Nat :=
  (inactive lore active).filter (holdsAt lore p)

/-- Activates the inactive entries with a property. -/
def extend (p : Lore → Bool) (active : List Nat) : List Nat :=
  active ++ newly lore p active

/-- Whether an entry is always active. -/
def isConstant (e : Lore) : Bool :=
  e.enabled && e.constant

/-- Whether a message activates an entry. -/
def isHitBy (text : String) (e : Lore) : Bool :=
  e.enabled && !e.constant && e.isMentionedIn text

/-- Whether the content of another entry activates an entry. -/
def isHitByContent (text : String) (e : Lore) : Bool :=
  e.enabled && !e.excludeRecursion && e.isMentionedIn text

/-- The places that a message window activates by itself: constants, then the hits of each message
    in turn. -/
def direct (window : List Message) : List Nat :=
  window.foldl (fun active m => extend lore (isHitBy m.content) active)
    (extend lore isConstant [])

/-- Activating entries takes as many out of the inactive ones. -/
theorem activate_step (p : Lore → Bool) (active : List Nat) :
    (inactive lore (extend lore p active)).length + (newly lore p active).length
      = (inactive lore active).length := by
  have h : inactive lore (extend lore p active)
      = (inactive lore active).filter fun i => !holdsAt lore p i := by
    unfold inactive extend newly
    rw [List.filter_filter]
    refine List.filter_congr fun i hi => ?_
    simp only [List.contains_eq_mem, List.mem_append, List.mem_filter, inactive,
      Bool.not_eq_eq_eq_not, Bool.not_true, decide_eq_false_iff_not]
    by_cases ha : i ∈ active <;> by_cases hp : holdsAt lore p i <;> simp_all
  rw [h]
  have := (inactive lore active).length_eq_countP_add_countP (holdsAt lore p)
  simp only [newly, ← List.countP_eq_length_filter, this]
  have heq : List.countP (fun i => !holdsAt lore p i) (inactive lore active)
      = List.countP (fun i => decide ¬holdsAt lore p i = true) (inactive lore active) := by
    congr 1
    funext i
    cases holdsAt lore p i <;> rfl
  omega

/-- Works through a stack of active entries: the contents of each activate entries, which go onto
    the stack. -/
def spread (active stack : List Nat) : List Nat :=
  match stack with
  | [] => active
  | top :: rest =>
    let p := isHitByContent ((lore[top]?).map (·.content) |>.getD "")
    spread (extend lore p active) ((newly lore p active).reverse ++ rest)
termination_by (inactive lore active).length + stack.length
decreasing_by
  have := activate_step lore (isHitByContent ((lore[top]?).map (·.content) |>.getD "")) active
  simp only [List.length_append, List.length_reverse, List.length_cons]
  omega

/-- The places of the active entries, in the order of their activation. -/
def run (window : List Message) : List Nat :=
  let active := direct lore window
  spread lore active (active.filter (holdsAt lore fun e => !e.preventRecursion)).reverse

end Activation

/-- The places of the entries that a window activates, in the order of their activation. -/
def activate (lore : List Lore) (window : List Message) : List Nat :=
  Activation.run lore window

/-- The entries that a window activates, in the order of their activation. -/
def activeLore (lore : List Lore) (window : List Message) : List Lore :=
  (activate lore window).filterMap (lore[·]?)

end Dramaturg
