import DocPortal.Listing.Entry
import DocPortal.Listing.Error

/-!
# Listing backends

A backend is asked for the children of a path and answers with the entries in its own order, or fails. It
may report events on the way and may change its state, so that a backend that counts its questions is one
too. Backends neither descend into directories nor sort.
-/

namespace DocPortal

/-- What a backend reports while it lists. -/
inductive ListingEvent where
  /-- A link in the directory leads nowhere. -/
  | danglingLink (path : Path) (reason : Failure)
  /-- A directory was listed to its end. -/
  | listed (path : Path) (count : Nat)
  deriving DecidableEq, Repr

/-- The answer of a backend in a state of type `σ`. -/
structure ListingAnswer (σ : Type) where
  result : Except ListingError (List DirectoryEntry)
  events : List ListingEvent
  state : σ

/-- A backend with states of type `σ`. -/
structure Listing (σ : Type) where
  ask : Path → σ → ListingAnswer σ

end DocPortal
