set_option autoImplicit false

/-! # Tables of a configuration file

A configuration file is a table of items, and an item is a value or again a table. A table is named
either by the heading of a section or by a key with points in it, and it remembers which: what a
heading has named is not added to by such keys, and what such keys have named gets no heading of its
own. -/

namespace Dramaturg.Toml

/-- A value of a configuration file. Of the numbers with a point, the dates, the lists and the
    tables within a line only their kind is kept, since no setting takes one. -/
inductive Value where
  | string (value : String)
  | integer (value : Int)
  | boolean (value : Bool)
  | real
  | date
  | list
  | record
deriving DecidableEq

/-- How a table was named. -/
inductive Origin where
  /-- On the way to the section of another heading. -/
  | implied
  /-- On the way to a value, by a key with points. -/
  | dotted
  /-- By its own heading. -/
  | heading
  /-- By a heading that may be repeated, and gives a new table each time. -/
  | repeated
deriving DecidableEq

/-- What stands under a key. Of the tables with a repeated heading only the last is kept, since only
    that one can still grow. -/
inductive Item where
  | value (value : Value)
  | table (origin : Origin) (members : List (String × Item))

/-- What a table holds. -/
abbrev Members : Type := List (String × Item)

namespace Members

/-- Puts an item under a key, instead of what stood there. -/
def put (key : String) (item : Item) (members : Members) : Members :=
  (key, item) :: members.filter fun m => m.1 != key

/-- Changes the table that a path of keys leads to. Tables on the way that are not there are made
    and are of the origin `made`; a key with points does not lead into the section of a heading. -/
def alter? (made : Origin) (change : Origin → Members → Option Members) :
    List String → Origin → Members → Option Members
  | [], origin, members => change origin members
  | key :: path, _, members =>
    match members.lookup key with
    | none =>
      (alter? made change path made []).map fun inner => put key (.table made inner) members
    | some (.value _) => none
    | some (.table origin inner) =>
      if made = .dotted ∧ origin = .heading then none
      else
        (alter? made change path origin inner).map fun inner =>
          put key (.table origin inner) members

/-- Adds a value under a key with points. The key may not be taken, and the table that holds the
    value is either the one at hand or was itself named by such a key. -/
def addValue? (keys : List String) (value : Value) : Origin → Members → Option Members :=
  let outer := keys.dropLast
  let last := keys.getLastD ""
  alter? .dotted (fun origin members =>
    if (!outer.isEmpty && origin != .dotted) || (members.lookup last).isSome then none
    else some (put last (.value value) members)) outer

/-- Adds the section of a heading, which may only be known as being on the way to another. -/
def addSection? (keys : List String) : Members → Option Members :=
  let last := keys.getLastD ""
  alter? .implied (fun _ members =>
    match members.lookup last with
    | none => some (put last (.table .heading []) members)
    | some (.table .implied inner) => some (put last (.table .heading inner) members)
    | some _ => none) keys.dropLast .heading

/-- Adds a section of a repeated heading. -/
def addRepeated? (keys : List String) : Members → Option Members :=
  let last := keys.getLastD ""
  alter? .implied (fun _ members =>
    match members.lookup last with
    | none => some (put last (.table .repeated []) members)
    | some (.table .repeated _) => some (put last (.table .repeated []) members)
    | some _ => none) keys.dropLast .heading

end Members

end Dramaturg.Toml
