import Relint.Converter.Formatting
import Relint.Converter.Limit
import Relint.Converter.Naming
import Relint.Converter.Plugin
import Relint.Converter.Practice
import Relint.Converter.Renamed
import Relint.Converter.Restriction
import Relint.Converter.TypeAware

/-!
The registry of all converters that come with the program.
-/

namespace Relint

namespace ConverterRegistry

def builtin : ConverterRegistry :=
  Converter.renamings ++ Converter.retirements ++ Converter.formatting ++
    Converter.restrictions ++ Converter.limits ++ Converter.practices ++ Converter.typings ++
    Converter.typeAwares ++ Converter.namings ++ Converter.plugins

end ConverterRegistry

end Relint
