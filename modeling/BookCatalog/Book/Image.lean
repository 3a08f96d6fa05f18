import BookCatalog.Text.Pieces

/-!
# Sizes of cover images

The catalog serves a cover in two sizes and names the size in the address of the image.
-/

namespace BookCatalog

/-- The size of a cover: a thumbnail for lists, or the cover of the detail view. -/
inductive ImageSize where
  | small
  | medium
  deriving DecidableEq

namespace ImageSize

/-- The word for a size in the address of an image. -/
def word : ImageSize → String
  | .small => "small"
  | .medium => "medium"

def all : List ImageSize := [.small, .medium]

def other : ImageSize → ImageSize
  | .small => .medium
  | .medium => .small

/-- The address of an image in this size: the first word for the other size is exchanged. -/
def apply (size : ImageSize) (image : String) : String :=
  Text.exchange size.other.word size.word image

end ImageSize

end BookCatalog
