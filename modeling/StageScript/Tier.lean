/-!
# Tiers of variables

A variable lives in one of five tiers: the temporary scope of a call level, one character within
one program, one character in all programs, the program, or the world.
-/

namespace StageScript

/-- Where a variable lives. -/
inductive Tier where
  | temp
  | characterLocal
  | characterGlobal
  | program
  | world
deriving DecidableEq, Repr

/-- The word for a tier. -/
def Tier.name : Tier → String
  | .temp => "temporary"
  | .characterLocal => "character-local"
  | .characterGlobal => "character-global"
  | .program => "program"
  | .world => "world"

/-- All tiers. -/
def Tier.all : List Tier := [.temp, .characterLocal, .characterGlobal, .program, .world]

/-- The tier a word names. -/
def Tier.ofName? (word : String) : Option Tier := Tier.all.find? (·.name == word)

end StageScript
