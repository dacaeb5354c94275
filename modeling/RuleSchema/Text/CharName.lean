import RuleSchema.Text.Mark
import RuleSchema.Text.Printable
import RuleSchema.Text.Quoted

/-!
# Names of characters

A message names a character that cannot be shown: blanks and characters that only arrange others
by the name that the Unicode character database gives them, and all else by its number.

* `charDisplay` is what a message shows of a character.
-/

namespace RuleSchema.Text

/-- The names of the separators, the arranging characters and the common accents. -/
def charNames : List (Nat × String) :=
  [(160, "NO-BREAK SPACE"), (173, "SOFT HYPHEN"), (768, "COMBINING GRAVE ACCENT"),
    (769, "COMBINING ACUTE ACCENT"), (770, "COMBINING CIRCUMFLEX ACCENT"),
    (771, "COMBINING TILDE"), (772, "COMBINING MACRON"), (773, "COMBINING OVERLINE"),
    (774, "COMBINING BREVE"), (775, "COMBINING DOT ABOVE"), (776, "COMBINING DIAERESIS"),
    (777, "COMBINING HOOK ABOVE"), (778, "COMBINING RING ABOVE"),
    (779, "COMBINING DOUBLE ACUTE ACCENT"), (780, "COMBINING CARON"),
    (781, "COMBINING VERTICAL LINE ABOVE"), (782, "COMBINING DOUBLE VERTICAL LINE ABOVE"),
    (783, "COMBINING DOUBLE GRAVE ACCENT"), (784, "COMBINING CANDRABINDU"),
    (785, "COMBINING INVERTED BREVE"), (786, "COMBINING TURNED COMMA ABOVE"),
    (787, "COMBINING COMMA ABOVE"), (788, "COMBINING REVERSED COMMA ABOVE"),
    (789, "COMBINING COMMA ABOVE RIGHT"), (790, "COMBINING GRAVE ACCENT BELOW"),
    (791, "COMBINING ACUTE ACCENT BELOW"), (792, "COMBINING LEFT TACK BELOW"),
    (793, "COMBINING RIGHT TACK BELOW"), (794, "COMBINING LEFT ANGLE ABOVE"),
    (795, "COMBINING HORN"), (796, "COMBINING LEFT HALF RING BELOW"),
    (797, "COMBINING UP TACK BELOW"), (798, "COMBINING DOWN TACK BELOW"),
    (799, "COMBINING PLUS SIGN BELOW"), (800, "COMBINING MINUS SIGN BELOW"),
    (801, "COMBINING PALATALIZED HOOK BELOW"), (802, "COMBINING RETROFLEX HOOK BELOW"),
    (803, "COMBINING DOT BELOW"), (804, "COMBINING DIAERESIS BELOW"),
    (805, "COMBINING RING BELOW"), (806, "COMBINING COMMA BELOW"), (807, "COMBINING CEDILLA"),
    (808, "COMBINING OGONEK"), (809, "COMBINING VERTICAL LINE BELOW"),
    (810, "COMBINING BRIDGE BELOW"), (811, "COMBINING INVERTED DOUBLE ARCH BELOW"),
    (812, "COMBINING CARON BELOW"), (813, "COMBINING CIRCUMFLEX ACCENT BELOW"),
    (814, "COMBINING BREVE BELOW"), (815, "COMBINING INVERTED BREVE BELOW"),
    (816, "COMBINING TILDE BELOW"), (817, "COMBINING MACRON BELOW"), (818, "COMBINING LOW LINE"),
    (819, "COMBINING DOUBLE LOW LINE"), (820, "COMBINING TILDE OVERLAY"),
    (821, "COMBINING SHORT STROKE OVERLAY"), (822, "COMBINING LONG STROKE OVERLAY"),
    (823, "COMBINING SHORT SOLIDUS OVERLAY"), (824, "COMBINING LONG SOLIDUS OVERLAY"),
    (825, "COMBINING RIGHT HALF RING BELOW"), (826, "COMBINING INVERTED BRIDGE BELOW"),
    (827, "COMBINING SQUARE BELOW"), (828, "COMBINING SEAGULL BELOW"), (829, "COMBINING X ABOVE"),
    (830, "COMBINING VERTICAL TILDE"), (831, "COMBINING DOUBLE OVERLINE"),
    (832, "COMBINING GRAVE TONE MARK"), (833, "COMBINING ACUTE TONE MARK"),
    (834, "COMBINING GREEK PERISPOMENI"), (835, "COMBINING GREEK KORONIS"),
    (836, "COMBINING GREEK DIALYTIKA TONOS"), (837, "COMBINING GREEK YPOGEGRAMMENI"),
    (838, "COMBINING BRIDGE ABOVE"), (839, "COMBINING EQUALS SIGN BELOW"),
    (840, "COMBINING DOUBLE VERTICAL LINE BELOW"), (841, "COMBINING LEFT ANGLE BELOW"),
    (842, "COMBINING NOT TILDE ABOVE"), (843, "COMBINING HOMOTHETIC ABOVE"),
    (844, "COMBINING ALMOST EQUAL TO ABOVE"), (845, "COMBINING LEFT RIGHT ARROW BELOW"),
    (846, "COMBINING UPWARDS ARROW BELOW"), (847, "COMBINING GRAPHEME JOINER"),
    (848, "COMBINING RIGHT ARROWHEAD ABOVE"), (849, "COMBINING LEFT HALF RING ABOVE"),
    (850, "COMBINING FERMATA"), (851, "COMBINING X BELOW"),
    (852, "COMBINING LEFT ARROWHEAD BELOW"), (853, "COMBINING RIGHT ARROWHEAD BELOW"),
    (854, "COMBINING RIGHT ARROWHEAD AND UP ARROWHEAD BELOW"),
    (855, "COMBINING RIGHT HALF RING ABOVE"), (856, "COMBINING DOT ABOVE RIGHT"),
    (857, "COMBINING ASTERISK BELOW"), (858, "COMBINING DOUBLE RING BELOW"),
    (859, "COMBINING ZIGZAG ABOVE"), (860, "COMBINING DOUBLE BREVE BELOW"),
    (861, "COMBINING DOUBLE BREVE"), (862, "COMBINING DOUBLE MACRON"),
    (863, "COMBINING DOUBLE MACRON BELOW"), (864, "COMBINING DOUBLE TILDE"),
    (865, "COMBINING DOUBLE INVERTED BREVE"), (866, "COMBINING DOUBLE RIGHTWARDS ARROW BELOW"),
    (867, "COMBINING LATIN SMALL LETTER A"), (868, "COMBINING LATIN SMALL LETTER E"),
    (869, "COMBINING LATIN SMALL LETTER I"), (870, "COMBINING LATIN SMALL LETTER O"),
    (871, "COMBINING LATIN SMALL LETTER U"), (872, "COMBINING LATIN SMALL LETTER C"),
    (873, "COMBINING LATIN SMALL LETTER D"), (874, "COMBINING LATIN SMALL LETTER H"),
    (875, "COMBINING LATIN SMALL LETTER M"), (876, "COMBINING LATIN SMALL LETTER R"),
    (877, "COMBINING LATIN SMALL LETTER T"), (878, "COMBINING LATIN SMALL LETTER V"),
    (879, "COMBINING LATIN SMALL LETTER X"), (1536, "ARABIC NUMBER SIGN"),
    (1537, "ARABIC SIGN SANAH"), (1538, "ARABIC FOOTNOTE MARKER"), (1539, "ARABIC SIGN SAFHA"),
    (1540, "ARABIC SIGN SAMVAT"), (1541, "ARABIC NUMBER MARK ABOVE"),
    (1564, "ARABIC LETTER MARK"), (1757, "ARABIC END OF AYAH"),
    (1807, "SYRIAC ABBREVIATION MARK"), (2192, "ARABIC POUND MARK ABOVE"),
    (2193, "ARABIC PIASTRE MARK ABOVE"), (2274, "ARABIC DISPUTED END OF AYAH"),
    (5760, "OGHAM SPACE MARK"), (6158, "MONGOLIAN VOWEL SEPARATOR"), (8192, "EN QUAD"),
    (8193, "EM QUAD"), (8194, "EN SPACE"), (8195, "EM SPACE"), (8196, "THREE-PER-EM SPACE"),
    (8197, "FOUR-PER-EM SPACE"), (8198, "SIX-PER-EM SPACE"), (8199, "FIGURE SPACE"),
    (8200, "PUNCTUATION SPACE"), (8201, "THIN SPACE"), (8202, "HAIR SPACE"),
    (8203, "ZERO WIDTH SPACE"), (8204, "ZERO WIDTH NON-JOINER"), (8205, "ZERO WIDTH JOINER"),
    (8206, "LEFT-TO-RIGHT MARK"), (8207, "RIGHT-TO-LEFT MARK"), (8232, "LINE SEPARATOR"),
    (8233, "PARAGRAPH SEPARATOR"), (8234, "LEFT-TO-RIGHT EMBEDDING"),
    (8235, "RIGHT-TO-LEFT EMBEDDING"), (8236, "POP DIRECTIONAL FORMATTING"),
    (8237, "LEFT-TO-RIGHT OVERRIDE"), (8238, "RIGHT-TO-LEFT OVERRIDE"),
    (8239, "NARROW NO-BREAK SPACE"), (8287, "MEDIUM MATHEMATICAL SPACE"), (8288, "WORD JOINER"),
    (8289, "FUNCTION APPLICATION"), (8290, "INVISIBLE TIMES"), (8291, "INVISIBLE SEPARATOR"),
    (8292, "INVISIBLE PLUS"), (8294, "LEFT-TO-RIGHT ISOLATE"), (8295, "RIGHT-TO-LEFT ISOLATE"),
    (8296, "FIRST STRONG ISOLATE"), (8297, "POP DIRECTIONAL ISOLATE"),
    (8298, "INHIBIT SYMMETRIC SWAPPING"), (8299, "ACTIVATE SYMMETRIC SWAPPING"),
    (8300, "INHIBIT ARABIC FORM SHAPING"), (8301, "ACTIVATE ARABIC FORM SHAPING"),
    (8302, "NATIONAL DIGIT SHAPES"), (8303, "NOMINAL DIGIT SHAPES"), (12288, "IDEOGRAPHIC SPACE"),
    (65279, "ZERO WIDTH NO-BREAK SPACE"), (65529, "INTERLINEAR ANNOTATION ANCHOR"),
    (65530, "INTERLINEAR ANNOTATION SEPARATOR"), (65531, "INTERLINEAR ANNOTATION TERMINATOR"),
    (69821, "KAITHI NUMBER SIGN"), (69837, "KAITHI NUMBER SIGN ABOVE"),
    (78896, "EGYPTIAN HIEROGLYPH VERTICAL JOINER"),
    (78897, "EGYPTIAN HIEROGLYPH HORIZONTAL JOINER"),
    (78898, "EGYPTIAN HIEROGLYPH INSERT AT TOP START"),
    (78899, "EGYPTIAN HIEROGLYPH INSERT AT BOTTOM START"),
    (78900, "EGYPTIAN HIEROGLYPH INSERT AT TOP END"),
    (78901, "EGYPTIAN HIEROGLYPH INSERT AT BOTTOM END"),
    (78902, "EGYPTIAN HIEROGLYPH OVERLAY MIDDLE"), (78903, "EGYPTIAN HIEROGLYPH BEGIN SEGMENT"),
    (78904, "EGYPTIAN HIEROGLYPH END SEGMENT"), (113824, "SHORTHAND FORMAT LETTER OVERLAP"),
    (113825, "SHORTHAND FORMAT CONTINUING OVERLAP"), (113826, "SHORTHAND FORMAT DOWN STEP"),
    (113827, "SHORTHAND FORMAT UP STEP"), (119155, "MUSICAL SYMBOL BEGIN BEAM"),
    (119156, "MUSICAL SYMBOL END BEAM"), (119157, "MUSICAL SYMBOL BEGIN TIE"),
    (119158, "MUSICAL SYMBOL END TIE"), (119159, "MUSICAL SYMBOL BEGIN SLUR"),
    (119160, "MUSICAL SYMBOL END SLUR"), (119161, "MUSICAL SYMBOL BEGIN PHRASE"),
    (119162, "MUSICAL SYMBOL END PHRASE")]

/-- The number of a character as it is written in code charts. -/
def charNumber (c : Char) : String :=
  "U+" ++ (hexDigits (if c.toNat < 65535 then 4 else 8) c.toNat).map Char.toUpper

/-- What a message shows of a character. -/
def charDisplay (c : Char) : String :=
  if c = '\\' then "\"\\\""
  else if c = ' ' then "SPACE"
  else if isPrintable c && !isMark c then quoted (String.singleton c)
  else (charNames.lookup c.toNat).getD (charNumber c)

end RuleSchema.Text
