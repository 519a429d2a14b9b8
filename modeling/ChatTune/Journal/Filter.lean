import ChatTune.Journal.Directive

/-!
# Choosing what is logged

A filter is a list of directives with commas between them.  Of the directives that speak about
an event, the most specific one decides whether it is logged; where none speaks about it, it
is not.

A filter in which a single directive cannot be understood is not used at all, and the program
goes on with the standard one.  But a directive that would have to be cut within a character
breaks the program off.
-/

set_option autoImplicit false

namespace ChatTune

/-- The directives of a filter, in the order in which they were given. -/
structure Filter where
  directives : List Directive

namespace Filter

/-- The filter that is used where none is given. -/
def standard : Filter := ⟨[⟨[], none, false, some .info⟩]⟩

/-- The filter that is given without any directive. -/
def blank : Filter := ⟨[⟨[], none, false, some .error⟩]⟩

/-- A filter by its text.  The first directive that cannot be read decides about the fault. -/
def ofText (text : String) : Except Directive.Fault Filter :=
  match (text.toList.splitOn ',').filter (· ≠ []) with
  | [] => .ok blank
  | pieces => (pieces.mapM Directive.ofText).map Filter.mk

/-- The filter of a setting that may be missing or impossible to understand; none if the
program breaks off over it. -/
def ofSetting : Option String → Option Filter
  | none => some standard
  | some text =>
    match ofText text with
    | .ok filter => some filter
    | .error .unreadable => some standard
    | .error .splitCharacter => none

/-- The directive that decides about an event: the most specific one of those that speak
about it. -/
def deciding (filter : Filter) (event : Event) : Option Directive :=
  (filter.directives.filter (·.concerns event)).foldl
    (fun best directive =>
      match best with
      | some previous => if previous.givesWay directive then some directive else best
      | none => some directive)
    none

/-- **Whether an event is logged.** -/
def passes (filter : Filter) (event : Event) : Bool :=
  match filter.deciding event with
  | some directive => directive.threshold.any event.isAtLeast
  | none => false

end Filter

end ChatTune
