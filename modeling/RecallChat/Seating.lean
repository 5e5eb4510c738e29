import RecallChat.Value

/-!
# The order in which a set of numbers is listed

A set lists its numbers by their seats at a round table and not in the order in which they were
written.  The table has a power of two of seats: eight for up to four numbers, else the least that
is more than twice as many as there are numbers.  Each number has an address, which equal numbers of
different kinds share, and takes the seat that its address names; where that seat is taken, it takes
the first free one of a fixed tour around the table.  Small whole numbers that are not negative are
therefore listed in ascending order.  A set with other members is listed as it was written.
-/

namespace RecallChat.Seating

set_option autoImplicit false

/-! ## Addresses -/

/-- The modulus of addresses, a prime of sixty-one bits. -/
def modulus : Nat := 2 ^ 61 - 1

/-- The address of a number by its sign and the address of its absolute value; -1 is nobody's. -/
def signedAddress (negative : Bool) (magnitude : Nat) : Int :=
  let address : Int := if negative then -(magnitude : Int) else magnitude
  if address = -1 then -2 else address

/-- The address of a floating point value.  A power of two keeps its address when its exponent
changes by sixty-one. -/
def realAddress? : Double → Option Int
  | .nan => none
  | .signed negative magnitude _ =>
    if magnitude = Format.double.infinity then some (signedAddress negative 314159)
    else
      let (significand, exponent) := Format.double.parts magnitude
      some (signedAddress negative (significand * 2 ^ (exponent % 61).toNat % modulus))

/-- The address of a number. -/
def address? : Value → Option Int
  | .boolean value => some (if value then 1 else 0)
  | .integer value => some (signedAddress (decide (value < 0)) (value.natAbs % modulus))
  | .real value => realAddress? value
  | _ => none

/-! ## The table -/

/-- How many seats there are for a number of guests. -/
def seatCount (guests : Nat) : Nat := if guests < 5 then 8 else 2 ^ ((2 * guests).log2 + 1)

/-- The first free seat on a tour around a table of `count` seats.  At each stop the guest looks at
that seat and, if the table goes on for nine seats more, at these too; `far` is what the address
still adds to the way to the next stop. -/
def freeSeat? (isFree : Nat → Bool) (count : Nat) : Nat → Nat → Nat → Option Nat
  | 0, _, _ => none
  | stops + 1, stop, far =>
    let near := if stop + 9 < count then List.range 10 else [0]
    match (near.map (stop + ·)).find? isFree with
    | some place => some place
    | none => freeSeat? isFree count stops ((stop * 5 + 1 + far / 32) % count) (far / 32)

/-- Gives a guest the first free seat of the tour from its address, which comes to every seat. -/
def seat {α : Type} (seats : Array (Option α)) (guest : α) (address : Int) : Array (Option α) :=
  let count := seats.size
  let start := (address % 2 ^ 64).toNat
  let isFree (place : Nat) : Bool := (seats[place]?).join.isNone
  match freeSeat? isFree count (count + 16) (start % count) start with
  | some place => seats.setIfInBounds place (some guest)
  | none => seats

/-- The members of a set in the order in which they are listed. -/
def listed (members : List Value) : List Value :=
  match members.mapM fun member => (address? member).map (member, ·) with
  | none => members
  | some guests =>
    let free : Array (Option Value) := Array.replicate (seatCount guests.length) none
    (guests.foldl (fun seats (guest, address) => seat seats guest address) free).toList.filterMap id

end RecallChat.Seating
