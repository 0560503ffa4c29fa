import Metrology.Worksheet.Item

/-!
What the kinds of items say about themselves.
-/

namespace Metrology.Item

/-- The description of the kind of an item, for kinds that have one. A transform has
none to show. -/
def description? : Item → Option Item
  | ratio _ => some (text (
      "\n" ++
      "    Immutable, canonical ratio of literal and symbolic terms.\n\n" ++
      "    Parameters\n" ++
      "    ----------\n" ++
      "    numer, denom :\n" ++
      "        A single term or a sequence of terms. Integers are prime-factored,\n" ++
      "        strings are kept as opaque symbols.\n" ++
      "    "))
  | dimension _ => some (text (
      "\n" ++
      "    A kind of measurement within which conversions are meaningful.\n\n" ++
      "    Centimetres convert to metres because both measure length; they never\n" ++
      "    convert to seconds. A dimension is a symbolic rational over the seven SI\n" ++
      "    base-dimension symbols (L, M, T, I, θ, N, J), with ``1`` meaning\n" ++
      "    dimensionless, e.g. ``L/T^2`` for acceleration.\n" ++
      "    "))
  | unit _ => some (text (
      "\n" ++
      "    A physical unit.\n\n" ++
      "    A unit is either a *base* unit, which anchors the scale of its dimension\n" ++
      "    and converts with the identity pipeline, or a *derived* unit built from\n" ++
      "    other units and scalars with :meth:`times`, :meth:`divide`, :meth:`add`\n" ++
      "    and :meth:`pow`.\n\n" ++
      "    Attributes\n" ++
      "    ----------\n" ++
      "    dimension : Dimension\n" ++
      "        What the unit measures (e.g. ``L/T`` for a speed).\n" ++
      "    representation : SymbolicRational\n" ++
      "        Display symbol, e.g. ``m/s``. Also decides equality: two units that\n" ++
      "        print the same are the same unit.\n" ++
      "    transformation : ConversionPipeline\n" ++
      "        Maps a magnitude in this unit to the magnitude in the base unit of\n" ++
      "        ``dimension``; ``transformation.unapply`` maps back.\n" ++
      "    is_base : bool\n" ++
      "        True only for units created directly through the constructor.\n" ++
      "    "))
  | quantity _ => some (text (
      "\n" ++
      "    A physical quantity: a magnitude expressed in some unit.\n\n" ++
      "    Attributes\n" ++
      "    ----------\n" ++
      "    value : int | float\n" ++
      "        The magnitude, in terms of ``unit``.\n" ++
      "    unit : Unit\n" ++
      "        The unit the magnitude is expressed in.\n" ++
      "    "))
  | step _ => some (text
      "A pair of pure numeric functions that undo each other.")
  | pipeline _ => some (text
      "Immutable, ordered sequence of :class:`ElementaryOperation` steps.")
  | builder _ => some (text (
      "\n" ++
      "    Mutable accumulator used while a new unit is being composed.\n\n" ++
      "    Only unit combinators use it; the unit they return holds the immutable\n" ++
      "    pipeline produced by :meth:`build`.\n" ++
      "    "))
  | registry _ => some (text
      "Symbol table of `Unit` objects keyed by display symbol.")
  | attributes _ => some (text
      "Attribute-style access to a registry: ``u.m``, ``u.hr``, ``u(\"m/s\")``.")
  | intermediate _ => some (text
      "A value travelling through a converter: the number and its rendering, if any.")
  | converter _ => some (text
      "An immutable chain of display transforms.")
  | transform _ => some absent
  | _ => none

end Metrology.Item
