import DryRun.Language.Catalogue
import DryRun.Text.Basic
import DryRun.Text.Case

/-!
# Naming a language

A tag is a free text such as `Python 3` or `ANSI C`. The first language of the catalogue claims it
that has the tag itself as an alias or one of its fragments inside the tag; failing that, the first
one that has a word of the tag as an alias. A tag that no language claims means the fallback.
-/

set_option autoImplicit false

namespace DryRun.Language

/-- The tag in the form in which it is compared. -/
def normalizeTag (tag : Text) : Text := Text.lower (Text.strip tag)

/-- Whether a character separates the words of a tag. -/
def separatesTagWords (c : Char) : Bool := !(Text.isWordChar c || c == '#' || c == '+')

def tagWords (tag : Text) : List Text := Text.pieces separatesTagWords tag

namespace Listing

/-- Whether a text is one of the listing's aliases. -/
def hasAlias (listing : Listing) (s : Text) : Bool :=
  listing.aliases.any fun name => name.toList == s

/-- Whether a tag is an alias or has a fragment inside. -/
def claims (listing : Listing) (tag : Text) : Bool :=
  listing.hasAlias tag || listing.fragments.any fun fragment => Text.occursIn fragment.toList tag

/-- Whether a word of a tag is an alias. -/
def claimsWord (listing : Listing) (tag : Text) : Bool :=
  (tagWords tag).any listing.hasAlias

end Listing

def ofNormalizedTag (tag : Text) : Language :=
  if tag.isEmpty then fallback
  else
    match catalogue.find? (·.claims tag) with
    | some listing => listing.language
    | none =>
      match catalogue.find? (·.claimsWord tag) with
      | some listing => listing.language
      | none => fallback

/-- The language that a tag names; an absent or empty tag stands for the default one. -/
def ofTag (tag : Option Text) : Language :=
  match tag with
  | none | some [] => ofNormalizedTag (normalizeTag Settings.defaultTag)
  | some tag => ofNormalizedTag (normalizeTag tag)

/-- The tag of the language whose source files have the given ending, with its dot. -/
def tagOfExtension (extension : Text) : Text :=
  match catalogue.find? fun listing =>
      listing.language.extension.toList == Text.lower extension with
  | some listing => listing.language.id.toList
  | none => Settings.defaultTag

end DryRun.Language
