import LateBinding.NativeType

/-!
The names of tuples, slices, arrays and references, and what shortening makes of them. A name
is cut once, behind its last path mark, while it may hold many paths. So shortening does what
its name says to a single path and to a name without path marks; of any other name it keeps
the end alone, from the last segment of the last path that has a mark.
-/

namespace LateBinding

structure Plain where
  chars : List Char
  plain : ':' ∉ chars ∧ '<' ∉ chars

structure TypePath where
  modules : List Plain
  own : Plain

inductive TypeName where
  | named (path : TypePath)
  | tuple (components : List TypeName)
  | slice (element : TypeName)
  | array (element : TypeName) (length : Nat)
  | reference (exclusive : Bool) (target : TypeName)

/-- What a name is written from: paths, and the signs around them. -/
inductive Piece where
  | sign (text : Plain)
  | named (path : TypePath)

namespace Plain

def number (n : Nat) : Plain where
  chars := Nat.toDigits 10 n
  plain := by
    have digit {c : Char} (member : c ∈ Nat.toDigits 10 n) : c.isDigit :=
      Nat.isDigit_of_mem_toDigits (by decide) (by decide) member
    constructor
    · intro member
      cases digit member
    · intro member
      cases digit member

end Plain

namespace Piece

def opening : Piece := .sign ⟨['('], by decide⟩
def closing : Piece := .sign ⟨[')'], by decide⟩
def comma : Piece := .sign ⟨[',', ' '], by decide⟩

/-- Behind the component of a tuple that has no other. -/
def closingOne : Piece := .sign ⟨[',', ')'], by decide⟩

def openingList : Piece := .sign ⟨['['], by decide⟩
def closingList : Piece := .sign ⟨[']'], by decide⟩
def semicolon : Piece := .sign ⟨[';', ' '], by decide⟩
def shared : Piece := .sign ⟨['&'], by decide⟩
def exclusive : Piece := .sign ⟨['&', 'm', 'u', 't', ' '], by decide⟩

def full : Piece → List Char
  | .sign text => text.chars
  | .named path => path.modules.flatMap (fun outer => outer.chars ++ [':', ':']) ++ path.own.chars

def brief : Piece → List Char
  | .sign text => text.chars
  | .named path => path.own.chars

def isQualified : Piece → Bool
  | .sign _ => false
  | .named path => !path.modules.isEmpty

/-- The pieces from the last qualified path on, or all of them if there is none. -/
def fromLastQualified : List Piece → List Piece
  | [] => []
  | first :: rest => if rest.any isQualified then fromLastQualified rest else first :: rest

end Piece

namespace TypeName

mutual

def pieces : TypeName → List Piece
  | .named path => [.named path]
  | .tuple [] => [.opening, .closing]
  | .tuple [only] => .opening :: only.pieces ++ [.closingOne]
  | .tuple (first :: next :: rest) =>
      .opening :: first.pieces ++ .comma :: listed (next :: rest) ++ [.closing]
  | .slice element => .openingList :: element.pieces ++ [.closingList]
  | .array element length =>
      .openingList :: element.pieces ++ [.semicolon, .sign (.number length), .closingList]
  | .reference true target => .exclusive :: target.pieces
  | .reference false target => .shared :: target.pieces

def listed : List TypeName → List Piece
  | [] => []
  | [last] => last.pieces
  | first :: next :: rest => first.pieces ++ .comma :: listed (next :: rest)

end

def fullName (type : TypeName) : String :=
  String.ofList (type.pieces.flatMap Piece.full)

/-- The name with each path in it replaced by its last segment, and all else kept. -/
def briefName (type : TypeName) : String :=
  String.ofList (type.pieces.flatMap Piece.brief)

end TypeName

namespace NativeType

theorem backToPathMark_of_no_colon {text : List Char} (plain : ':' ∉ text) :
    backToPathMark text = text := by
  induction text with
  | nil => rfl
  | cons c rest ih =>
      rw [List.mem_cons, not_or] at plain
      rw [backToPathMark, ih plain.2]
      intro _ colon _
      exact plain.1 colon.symm

theorem backToPathMark_mark {text : List Char} (plain : ':' ∉ text) (rest : List Char) :
    backToPathMark (text ++ ':' :: ':' :: rest) = text := by
  induction text with
  | nil => rfl
  | cons c text ih =>
      rw [List.mem_cons, not_or] at plain
      rw [List.cons_append, backToPathMark, ih plain.2]
      intro _ colon _
      exact plain.1 colon.symm

theorem lastSegment_of_no_colon {text : List Char} (plain : ':' ∉ text) :
    lastSegment text = text := by
  rw [lastSegment, backToPathMark_of_no_colon (by simpa using plain), List.reverse_reverse]

theorem lastSegment_mark (front : List Char) {text : List Char} (plain : ':' ∉ text) :
    lastSegment (front ++ ':' :: ':' :: text) = text := by
  have backwards : (front ++ ':' :: ':' :: text).reverse =
      text.reverse ++ ':' :: ':' :: front.reverse := by simp
  rw [lastSegment, backwards, backToPathMark_mark (by simpa using plain), List.reverse_reverse]

end NativeType

open NativeType

namespace Piece

theorem brief_no_colon (piece : Piece) : ':' ∉ piece.brief := by
  cases piece with
  | sign text => exact text.plain.1
  | named path => exact path.own.plain.1

theorem full_of_plain {piece : Piece} (plain : piece.isQualified = false) :
    piece.full = piece.brief := by
  cases piece with
  | sign text => rfl
  | named path =>
      have none : path.modules = [] := by simpa [isQualified] using plain
      simp [full, brief, none]

-- The last module is followed by the last mark, and the name behind it has none.
theorem full_of_qualified {piece : Piece} (qualified : piece.isQualified = true) :
    ∃ front, piece.full = front ++ ':' :: ':' :: piece.brief := by
  cases piece with
  | sign text => cases qualified
  | named path =>
      have some : path.modules ≠ [] := by simpa [isQualified] using qualified
      obtain ⟨outer, last, split⟩ := (List.eq_nil_or_concat path.modules).resolve_left some
      exact ⟨outer.flatMap (fun place => place.chars ++ [':', ':']) ++ last.chars,
        by simp [full, brief, split]⟩

theorem no_angle (piece : Piece) : '<' ∉ piece.full := by
  intro member
  cases piece with
  | sign text => exact text.plain.2 member
  | named path =>
      rcases List.mem_append.mp member with outside | inside
      · obtain ⟨place, _, among⟩ := List.mem_flatMap.mp outside
        rcases List.mem_append.mp among with letter | mark
        · exact place.plain.2 letter
        · exact absurd mark (by decide)
      · exact path.own.plain.2 inside

theorem flatMap_brief_no_colon (pieces : List Piece) : ':' ∉ pieces.flatMap brief := by
  intro member
  obtain ⟨piece, _, among⟩ := List.mem_flatMap.mp member
  exact piece.brief_no_colon among

theorem flatMap_full_of_plain {pieces : List Piece} (plain : pieces.any isQualified = false) :
    pieces.flatMap full = pieces.flatMap brief ∧ fromLastQualified pieces = pieces := by
  induction pieces with
  | nil => exact ⟨rfl, rfl⟩
  | cons first rest ih =>
      rw [List.any_cons, Bool.or_eq_false_iff] at plain
      constructor
      · rw [List.flatMap_cons, List.flatMap_cons, full_of_plain plain.1, (ih plain.2).1]
      · simp [fromLastQualified, plain.2]

theorem flatMap_full_of_qualified {pieces : List Piece}
    (qualified : pieces.any isQualified = true) :
    ∃ front, pieces.flatMap full =
      front ++ ':' :: ':' :: (fromLastQualified pieces).flatMap brief := by
  induction pieces with
  | nil => cases qualified
  | cons first rest ih =>
      rw [List.any_cons, Bool.or_eq_true] at qualified
      cases later : rest.any isQualified with
      | true =>
          obtain ⟨front, split⟩ := ih later
          refine ⟨first.full ++ front, ?_⟩
          rw [List.flatMap_cons, split, fromLastQualified, if_pos later, List.append_assoc]
      | false =>
          obtain ⟨front, split⟩ := full_of_qualified (qualified.resolve_right (by simp [later]))
          refine ⟨front, ?_⟩
          rw [List.flatMap_cons, split, (flatMap_full_of_plain later).1, fromLastQualified, later,
            if_neg Bool.false_ne_true, List.flatMap_cons, List.append_assoc, List.cons_append,
            List.cons_append]

/-- The cut behind the last mark leaves what is written from the last qualified path on. -/
theorem lastSegment_full (pieces : List Piece) :
    lastSegment (pieces.flatMap full) = (fromLastQualified pieces).flatMap brief := by
  cases qualified : pieces.any isQualified with
  | true =>
      obtain ⟨front, split⟩ := flatMap_full_of_qualified qualified
      rw [split, lastSegment_mark front (flatMap_brief_no_colon _)]
  | false =>
      obtain ⟨text, all⟩ := flatMap_full_of_plain qualified
      rw [all, text, lastSegment_of_no_colon (flatMap_brief_no_colon _)]

theorem fromLastQualified_suffix (pieces : List Piece) : fromLastQualified pieces <:+ pieces := by
  induction pieces with
  | nil => exact List.suffix_refl []
  | cons first rest ih =>
      rw [fromLastQualified]
      split
      · exact ih.trans (List.suffix_cons first rest)
      · exact List.suffix_refl _

-- What is dropped in front of a later qualified path is dropped with its length.
theorem flatMap_brief_ne_of_qualified {text : Plain} (written : text.chars ≠ [])
    {rest : List Piece} (qualified : rest.any isQualified = true) :
    (fromLastQualified (.sign text :: rest)).flatMap brief ≠
      (Piece.sign text :: rest).flatMap brief := by
  intro same
  rw [fromLastQualified, if_pos qualified, List.flatMap_cons] at same
  obtain ⟨front, split⟩ := fromLastQualified_suffix rest
  have lengths := congrArg List.length same
  have whole := congrArg (fun pieces : List Piece => (pieces.flatMap brief).length) split
  simp only [List.flatMap_append, List.length_append] at lengths whole
  have positive : 0 < text.chars.length := List.length_pos_iff.mpr written
  simp only [brief] at lengths
  omega

end Piece

namespace TypeName

theorem named_or_sign (type : TypeName) :
    (∃ path, type = .named path) ∨
      ∃ text rest, type.pieces = .sign text :: rest ∧ text.chars ≠ [] := by
  cases type with
  | named path => exact .inl ⟨path, rfl⟩
  | tuple components =>
      rcases components with _ | ⟨first, _ | ⟨next, rest⟩⟩
      · exact .inr ⟨_, _, rfl, List.cons_ne_nil _ _⟩
      · exact .inr ⟨_, _, rfl, List.cons_ne_nil _ _⟩
      · exact .inr ⟨_, _, rfl, List.cons_ne_nil _ _⟩
  | slice element => exact .inr ⟨_, _, rfl, List.cons_ne_nil _ _⟩
  | array element length => exact .inr ⟨_, _, rfl, List.cons_ne_nil _ _⟩
  | reference exclusive target =>
      cases exclusive
      · exact .inr ⟨_, _, rfl, List.cons_ne_nil _ _⟩
      · exact .inr ⟨_, _, rfl, List.cons_ne_nil _ _⟩

theorem no_angle_fullName (type : TypeName) : '<' ∉ type.fullName.toList := by
  rw [fullName, String.toList_ofList]
  intro member
  obtain ⟨piece, _, among⟩ := List.mem_flatMap.mp member
  exact piece.no_angle among

theorem shorten_fullName (type : TypeName) :
    shorten type.fullName =
      String.ofList ((Piece.fromLastQualified type.pieces).flatMap Piece.brief) := by
  rw [shorten, if_neg type.no_angle_fullName, fullName, String.toList_ofList,
    Piece.lastSegment_full]

theorem any_qualified_eq_false_iff (type : TypeName) :
    type.pieces.any Piece.isQualified = false ↔
      ∀ path, Piece.named path ∈ type.pieces → path.modules = [] := by
  rw [List.any_eq_false]
  constructor
  · intro plain path member
    simpa [Piece.isQualified] using plain _ member
  · intro plain piece member
    cases piece with
    | sign text => exact Bool.false_ne_true
    | named path => simp [Piece.isQualified, plain path member]

/-- What shortening makes of the name of a type: the end from the last qualified path on, each
path in it replaced by its last segment. So it replaces all paths by their last segments and
keeps the rest exactly if the type is named by a single path, or no path in it is qualified. -/
theorem short_name_keeps_the_end (type : TypeName) (token : Nat) :
    '<' ∉ type.fullName.toList ∧
    (NativeType.mk token type.fullName).shortName =
      String.ofList ((Piece.fromLastQualified type.pieces).flatMap Piece.brief) ∧
    ((NativeType.mk token type.fullName).shortName = type.briefName ↔
      (∃ path, type = .named path) ∨
        ∀ path, Piece.named path ∈ type.pieces → path.modules = []) := by
  refine ⟨type.no_angle_fullName, type.shorten_fullName, ?_⟩
  rw [shortName, shorten_fullName, briefName, ← any_qualified_eq_false_iff]
  constructor
  · intro same
    rcases type.named_or_sign with single | ⟨text, rest, split, written⟩
    · exact .inl single
    · right
      cases qualified : type.pieces.any Piece.isQualified with
      | false => rfl
      | true =>
          rw [split] at same qualified
          exact absurd (String.ofList_inj.mp same)
            (Piece.flatMap_brief_ne_of_qualified written qualified)
  · rintro (⟨path, rfl⟩ | plain)
    · rfl
    · rw [(Piece.flatMap_full_of_plain plain).2]

def numberAndText : TypeName :=
  .tuple [.named ⟨[], ⟨"i32".toList, by decide⟩⟩,
    .named ⟨[⟨"alloc".toList, by decide⟩, ⟨"string".toList, by decide⟩],
      ⟨"String".toList, by decide⟩⟩]

/-- The first component is lost with the bracket in front of it. -/
theorem pair_loses_its_number :
    numberAndText.fullName = "(i32, alloc::string::String)" ∧
    numberAndText.briefName = "(i32, String)" ∧
    (NativeType.mk 0 numberAndText.fullName).shortName = "String)" :=
  ⟨by decide, by decide, by decide⟩

end TypeName

end LateBinding
