import DebtMarket.Calendar.InstantReader

/-! Revisions: the part of a record that tells how often and when it changed. Every change
raises the version by one and sets the time of the last change; the last change of all
marks the record as deleted, and is made at most once.
-/

namespace DebtMarket

/-- How often and when a record changed. -/
structure Revision where
  version : UInt64
  createdAt : Instant
  updatedAt : Instant
  deletedAt : Option Instant
deriving DecidableEq, Repr

namespace Revision

/-- The revision of a new record. -/
def first (now : Instant) : Revision :=
  { version := 1, createdAt := now, updatedAt := now, deletedAt := none }

/-- The greatest version. -/
def maxVersion : UInt64 :=
  18446744073709551615

/-- The version after another; it stays at the greatest one. -/
def nextVersion (v : UInt64) : UInt64 :=
  if v = maxVersion then v else v + 1

/-- The revision after a change. -/
def touch (r : Revision) (now : Instant) : Revision :=
  { r with version := nextVersion r.version, updatedAt := now }

/-- Whether the record is marked as deleted. -/
def isDeleted (r : Revision) : Bool :=
  r.deletedAt.isSome

/-- The revision with the mark of deletion; a mark that is there already stays. -/
def tombstone (r : Revision) (now : Instant) : Revision :=
  if r.isDeleted then r else { r.touch now with deletedAt := some now }

/-- The names of the members of a revision in JSON. -/
def fields : List String :=
  ["version", "created_at", "updated_at", "deleted_at"]

/-- The members of a revision in JSON. -/
def encode (r : Revision) : List (String × Json) :=
  [
    ("version", Json.encode r.version),
    ("created_at", Json.encode r.createdAt),
    ("updated_at", Json.encode r.updatedAt),
    ("deleted_at", Json.encode r.deletedAt)
  ]

/-- The revision among the fields of a record. -/
def decode (r : Json.Record) : Option Revision := do
  return {
    version := ← r.read "version",
    createdAt := ← r.read "created_at",
    updatedAt := ← r.read "updated_at",
    deletedAt := ← r.read "deleted_at"
  }

/-- A version below the greatest one grows by one. -/
theorem toNat_nextVersion (v : UInt64)
    : (nextVersion v).toNat = min (v.toNat + 1) 18446744073709551615 := by
  unfold nextVersion maxVersion
  split
  · next h => subst h; decide
  · next h =>
      have hv : v.toNat ≠ 18446744073709551615 :=
        fun e => h (UInt64.toNat_inj.1 (by simpa using e))
      have := v.toNat_lt
      rw [UInt64.toNat_add]
      simp
      omega

end Revision

end DebtMarket
