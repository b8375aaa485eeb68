import Analytics.Zone.Era
import Analytics.Zone.Season.Europe

/-!
Histories of the zones named Europe.
-/

namespace Analytics.Zone.Region.Europe

def andorra : List Era :=
  [ ⟨364, .fixed 0, some ⟨1901, 1, .on 1, 0, .wall⟩⟩,
    ⟨0, .fixed 0, some ⟨1946, 9, .on 30, 0, .wall⟩⟩,
    ⟨3600, .fixed 0, some ⟨1985, 3, .on 31, 7200, .wall⟩⟩,
    ⟨3600, .rules Season.europeanUnion, none⟩]

def astrakhan : List Era :=
  [ ⟨11532, .fixed 0, some ⟨1924, 5, .on 1, 0, .wall⟩⟩,
    ⟨10800, .fixed 0, some ⟨1930, 6, .on 21, 0, .wall⟩⟩,
    ⟨14400, .rules Season.russia, some ⟨1989, 3, .on 26, 7200, .standard⟩⟩,
    ⟨10800, .rules Season.russia, some ⟨1991, 3, .on 31, 7200, .standard⟩⟩,
    ⟨14400, .fixed 0, some ⟨1992, 3, .on 29, 7200, .standard⟩⟩,
    ⟨10800, .rules Season.russia, some ⟨2011, 3, .on 27, 7200, .standard⟩⟩,
    ⟨14400, .fixed 0, some ⟨2014, 10, .on 26, 7200, .standard⟩⟩,
    ⟨10800, .fixed 0, some ⟨2016, 3, .on 27, 7200, .standard⟩⟩,
    ⟨14400, .fixed 0, none⟩]

def athens : List Era :=
  [ ⟨5692, .fixed 0, some ⟨1895, 9, .on 14, 0, .wall⟩⟩,
    ⟨5692, .fixed 0, some ⟨1916, 7, .on 28, 60, .wall⟩⟩,
    ⟨7200, .rules Season.greece, some ⟨1941, 4, .on 30, 0, .wall⟩⟩,
    ⟨3600, .rules Season.greece, some ⟨1944, 4, .on 4, 0, .wall⟩⟩,
    ⟨7200, .rules Season.greece, some ⟨1981, 1, .on 1, 0, .wall⟩⟩,
    ⟨7200, .rules Season.europeanUnion, none⟩]

def belgrade : List Era :=
  [ ⟨4920, .fixed 0, some ⟨1884, 1, .on 1, 0, .wall⟩⟩,
    ⟨3600, .fixed 0, some ⟨1941, 4, .on 18, 82800, .wall⟩⟩,
    ⟨3600, .rules Season.centralEurope, some ⟨1945, 1, .on 1, 0, .wall⟩⟩,
    ⟨3600, .fixed 0, some ⟨1945, 5, .on 8, 7200, .standard⟩⟩,
    ⟨3600, .fixed 3600, some ⟨1945, 9, .on 16, 7200, .standard⟩⟩,
    ⟨3600, .fixed 0, some ⟨1982, 11, .on 27, 0, .wall⟩⟩,
    ⟨3600, .rules Season.europeanUnion, none⟩]

def berlin : List Era :=
  [ ⟨3208, .fixed 0, some ⟨1893, 4, .on 1, 0, .wall⟩⟩,
    ⟨3600, .rules Season.centralEurope, some ⟨1945, 5, .on 24, 7200, .wall⟩⟩,
    ⟨3600, .rules Season.sovietZone, some ⟨1946, 1, .on 1, 0, .wall⟩⟩,
    ⟨3600, .rules Season.germany, some ⟨1980, 1, .on 1, 0, .wall⟩⟩,
    ⟨3600, .rules Season.europeanUnion, none⟩]

def brussels : List Era :=
  [ ⟨1050, .fixed 0, some ⟨1880, 1, .on 1, 0, .wall⟩⟩,
    ⟨1050, .fixed 0, some ⟨1892, 5, .on 1, 1050, .wall⟩⟩,
    ⟨0, .fixed 0, some ⟨1914, 11, .on 8, 0, .wall⟩⟩,
    ⟨3600, .fixed 0, some ⟨1916, 5, .on 1, 0, .wall⟩⟩,
    ⟨3600, .rules Season.centralEurope, some ⟨1918, 11, .on 11, 39600, .universal⟩⟩,
    ⟨0, .rules Season.belgium, some ⟨1940, 5, .on 20, 7200, .standard⟩⟩,
    ⟨3600, .rules Season.centralEurope, some ⟨1944, 9, .on 3, 0, .wall⟩⟩,
    ⟨3600, .rules Season.belgium, some ⟨1977, 1, .on 1, 0, .wall⟩⟩,
    ⟨3600, .rules Season.europeanUnion, none⟩]

def bucharest : List Era :=
  [ ⟨6264, .fixed 0, some ⟨1891, 10, .on 1, 0, .wall⟩⟩,
    ⟨6264, .fixed 0, some ⟨1931, 7, .on 24, 0, .wall⟩⟩,
    ⟨7200, .rules Season.romania, some ⟨1981, 3, .on 29, 7200, .standard⟩⟩,
    ⟨7200, .rules Season.centralEurope, some ⟨1991, 1, .on 1, 0, .wall⟩⟩,
    ⟨7200, .rules Season.romania, some ⟨1994, 1, .on 1, 0, .wall⟩⟩,
    ⟨7200, .rules Season.easternEurope, some ⟨1997, 1, .on 1, 0, .wall⟩⟩,
    ⟨7200, .rules Season.europeanUnion, none⟩]

def budapest : List Era :=
  [ ⟨4580, .fixed 0, some ⟨1890, 11, .on 1, 0, .wall⟩⟩,
    ⟨3600, .rules Season.centralEurope, some ⟨1918, 1, .on 1, 0, .wall⟩⟩,
    ⟨3600, .rules Season.hungary, some ⟨1941, 4, .on 7, 82800, .wall⟩⟩,
    ⟨3600, .rules Season.centralEurope, some ⟨1945, 1, .on 1, 0, .wall⟩⟩,
    ⟨3600, .rules Season.hungary, some ⟨1984, 1, .on 1, 0, .wall⟩⟩,
    ⟨3600, .rules Season.europeanUnion, none⟩]

def chisinau : List Era :=
  [ ⟨6920, .fixed 0, some ⟨1880, 1, .on 1, 0, .wall⟩⟩,
    ⟨6900, .fixed 0, some ⟨1918, 2, .on 15, 0, .wall⟩⟩,
    ⟨6264, .fixed 0, some ⟨1931, 7, .on 24, 0, .wall⟩⟩,
    ⟨7200, .rules Season.romania, some ⟨1940, 8, .on 15, 0, .wall⟩⟩,
    ⟨7200, .fixed 3600, some ⟨1941, 7, .on 17, 0, .wall⟩⟩,
    ⟨3600, .rules Season.centralEurope, some ⟨1944, 8, .on 24, 0, .wall⟩⟩,
    ⟨10800, .rules Season.russia, some ⟨1990, 5, .on 6, 7200, .wall⟩⟩,
    ⟨7200, .rules Season.russia, some ⟨1992, 1, .on 1, 0, .wall⟩⟩,
    ⟨7200, .rules Season.easternEurope, some ⟨1997, 1, .on 1, 0, .wall⟩⟩,
    ⟨7200, .rules Season.moldova, none⟩]

def dublin : List Era :=
  [ ⟨-1521, .fixed 0, some ⟨1880, 8, .on 2, 0, .wall⟩⟩,
    ⟨-1521, .fixed 0, some ⟨1916, 5, .on 21, 7200, .standard⟩⟩,
    ⟨-1521, .fixed 3600, some ⟨1916, 10, .on 1, 7200, .standard⟩⟩,
    ⟨0, .rules Season.britain, some ⟨1921, 12, .on 6, 0, .wall⟩⟩,
    ⟨0, .rules Season.britain, some ⟨1940, 2, .on 25, 7200, .standard⟩⟩,
    ⟨0, .fixed 3600, some ⟨1946, 10, .on 6, 7200, .standard⟩⟩,
    ⟨0, .fixed 0, some ⟨1947, 3, .on 16, 7200, .standard⟩⟩,
    ⟨0, .fixed 3600, some ⟨1947, 11, .on 2, 7200, .standard⟩⟩,
    ⟨0, .fixed 0, some ⟨1948, 4, .on 18, 7200, .standard⟩⟩,
    ⟨0, .rules Season.britain, some ⟨1968, 10, .on 27, 0, .wall⟩⟩,
    ⟨3600, .fixed 0, some ⟨1971, 10, .on 31, 7200, .universal⟩⟩,
    ⟨0, .rules Season.britain, some ⟨1996, 1, .on 1, 0, .wall⟩⟩,
    ⟨0, .rules Season.europeanUnion, none⟩]

def gibraltar : List Era :=
  [ ⟨-1284, .fixed 0, some ⟨1880, 8, .on 2, 0, .wall⟩⟩,
    ⟨0, .rules Season.britain, some ⟨1957, 4, .on 14, 7200, .wall⟩⟩,
    ⟨3600, .fixed 0, some ⟨1982, 1, .on 1, 0, .wall⟩⟩,
    ⟨3600, .rules Season.europeanUnion, none⟩]

def helsinki : List Era :=
  [ ⟨5989, .fixed 0, some ⟨1878, 5, .on 31, 0, .wall⟩⟩,
    ⟨5989, .fixed 0, some ⟨1921, 5, .on 1, 0, .wall⟩⟩,
    ⟨7200, .rules Season.finland, some ⟨1983, 1, .on 1, 0, .wall⟩⟩,
    ⟨7200, .rules Season.europeanUnion, none⟩]

def istanbul : List Era :=
  [ ⟨6952, .fixed 0, some ⟨1880, 1, .on 1, 0, .wall⟩⟩,
    ⟨7016, .fixed 0, some ⟨1910, 10, .on 1, 0, .wall⟩⟩,
    ⟨7200, .rules Season.turkey, some ⟨1978, 6, .on 29, 0, .wall⟩⟩,
    ⟨10800, .rules Season.turkey, some ⟨1984, 11, .on 1, 7200, .wall⟩⟩,
    ⟨7200, .rules Season.turkey, some ⟨2007, 1, .on 1, 0, .wall⟩⟩,
    ⟨7200, .rules Season.europeanUnion, some ⟨2011, 3, .on 27, 3600, .universal⟩⟩,
    ⟨7200, .fixed 0, some ⟨2011, 3, .on 28, 3600, .universal⟩⟩,
    ⟨7200, .rules Season.europeanUnion, some ⟨2014, 3, .on 30, 3600, .universal⟩⟩,
    ⟨7200, .fixed 0, some ⟨2014, 3, .on 31, 3600, .universal⟩⟩,
    ⟨7200, .rules Season.europeanUnion, some ⟨2015, 10, .on 25, 3600, .universal⟩⟩,
    ⟨7200, .fixed 3600, some ⟨2015, 11, .on 8, 3600, .universal⟩⟩,
    ⟨7200, .rules Season.europeanUnion, some ⟨2016, 9, .on 7, 0, .wall⟩⟩,
    ⟨10800, .fixed 0, none⟩]

def kaliningrad : List Era :=
  [ ⟨4920, .fixed 0, some ⟨1893, 4, .on 1, 0, .wall⟩⟩,
    ⟨3600, .rules Season.centralEurope, some ⟨1945, 4, .on 10, 0, .wall⟩⟩,
    ⟨7200, .rules Season.poland, some ⟨1946, 4, .on 7, 0, .wall⟩⟩,
    ⟨10800, .rules Season.russia, some ⟨1989, 3, .on 26, 7200, .standard⟩⟩,
    ⟨7200, .rules Season.russia, some ⟨2011, 3, .on 27, 7200, .standard⟩⟩,
    ⟨10800, .fixed 0, some ⟨2014, 10, .on 26, 7200, .standard⟩⟩,
    ⟨7200, .fixed 0, none⟩]

def kirov : List Era :=
  [ ⟨11928, .fixed 0, some ⟨1919, 7, .on 1, 0, .universal⟩⟩,
    ⟨10800, .fixed 0, some ⟨1930, 6, .on 21, 0, .wall⟩⟩,
    ⟨14400, .rules Season.russia, some ⟨1989, 3, .on 26, 7200, .standard⟩⟩,
    ⟨10800, .rules Season.russia, some ⟨1991, 3, .on 31, 7200, .standard⟩⟩,
    ⟨14400, .fixed 0, some ⟨1992, 3, .on 29, 7200, .standard⟩⟩,
    ⟨10800, .rules Season.russia, some ⟨2011, 3, .on 27, 7200, .standard⟩⟩,
    ⟨14400, .fixed 0, some ⟨2014, 10, .on 26, 7200, .standard⟩⟩,
    ⟨10800, .fixed 0, none⟩]

def kyiv : List Era :=
  [ ⟨7324, .fixed 0, some ⟨1880, 1, .on 1, 0, .wall⟩⟩,
    ⟨7324, .fixed 0, some ⟨1924, 5, .on 2, 0, .wall⟩⟩,
    ⟨7200, .fixed 0, some ⟨1930, 6, .on 21, 0, .wall⟩⟩,
    ⟨10800, .fixed 0, some ⟨1941, 9, .on 20, 0, .wall⟩⟩,
    ⟨3600, .rules Season.centralEurope, some ⟨1943, 11, .on 6, 0, .wall⟩⟩,
    ⟨10800, .rules Season.russia, some ⟨1990, 7, .on 1, 7200, .wall⟩⟩,
    ⟨7200, .fixed 3600, some ⟨1991, 9, .on 29, 10800, .wall⟩⟩,
    ⟨7200, .rules Season.centralEurope, some ⟨1996, 5, .on 13, 0, .wall⟩⟩,
    ⟨7200, .rules Season.europeanUnion, none⟩]

def lisbon : List Era :=
  [ ⟨-2205, .fixed 0, some ⟨1884, 1, .on 1, 0, .wall⟩⟩,
    ⟨-2205, .fixed 0, some ⟨1912, 1, .on 1, 0, .universal⟩⟩,
    ⟨0, .rules Season.portugal, some ⟨1966, 10, .on 2, 7200, .standard⟩⟩,
    ⟨3600, .fixed 0, some ⟨1976, 9, .on 26, 3600, .wall⟩⟩,
    ⟨0, .rules Season.portugal, some ⟨1986, 1, .on 1, 0, .wall⟩⟩,
    ⟨0, .rules Season.europeanUnion, some ⟨1992, 9, .on 27, 3600, .universal⟩⟩,
    ⟨3600, .rules Season.europeanUnion, some ⟨1996, 3, .on 31, 3600, .universal⟩⟩,
    ⟨0, .rules Season.europeanUnion, none⟩]

def london : List Era :=
  [ ⟨-75, .fixed 0, some ⟨1847, 12, .on 1, 0, .wall⟩⟩,
    ⟨0, .rules Season.britain, some ⟨1968, 10, .on 27, 0, .wall⟩⟩,
    ⟨3600, .fixed 0, some ⟨1971, 10, .on 31, 7200, .universal⟩⟩,
    ⟨0, .rules Season.britain, some ⟨1996, 1, .on 1, 0, .wall⟩⟩,
    ⟨0, .rules Season.europeanUnion, none⟩]

def madrid : List Era :=
  [ ⟨-884, .fixed 0, some ⟨1901, 1, .on 1, 0, .universal⟩⟩,
    ⟨0, .rules Season.spain, some ⟨1940, 3, .on 16, 82800, .wall⟩⟩,
    ⟨3600, .rules Season.spain, some ⟨1979, 1, .on 1, 0, .wall⟩⟩,
    ⟨3600, .rules Season.europeanUnion, none⟩]

def malta : List Era :=
  [ ⟨3484, .fixed 0, some ⟨1893, 11, .on 2, 0, .wall⟩⟩,
    ⟨3600, .rules Season.italy, some ⟨1973, 3, .on 31, 0, .wall⟩⟩,
    ⟨3600, .rules Season.malta, some ⟨1981, 1, .on 1, 0, .wall⟩⟩,
    ⟨3600, .rules Season.europeanUnion, none⟩]

def minsk : List Era :=
  [ ⟨6616, .fixed 0, some ⟨1880, 1, .on 1, 0, .wall⟩⟩,
    ⟨6600, .fixed 0, some ⟨1924, 5, .on 2, 0, .wall⟩⟩,
    ⟨7200, .fixed 0, some ⟨1930, 6, .on 21, 0, .wall⟩⟩,
    ⟨10800, .fixed 0, some ⟨1941, 6, .on 28, 0, .wall⟩⟩,
    ⟨3600, .rules Season.centralEurope, some ⟨1944, 7, .on 3, 0, .wall⟩⟩,
    ⟨10800, .rules Season.russia, some ⟨1990, 1, .on 1, 0, .wall⟩⟩,
    ⟨10800, .fixed 0, some ⟨1991, 3, .on 31, 7200, .standard⟩⟩,
    ⟨7200, .rules Season.russia, some ⟨2011, 3, .on 27, 7200, .standard⟩⟩,
    ⟨10800, .fixed 0, none⟩]

def moscow : List Era :=
  [ ⟨9017, .fixed 0, some ⟨1880, 1, .on 1, 0, .wall⟩⟩,
    ⟨9017, .fixed 0, some ⟨1916, 7, .on 3, 0, .wall⟩⟩,
    ⟨9079, .rules Season.russia, some ⟨1919, 7, .on 1, 0, .universal⟩⟩,
    ⟨10800, .rules Season.russia, some ⟨1921, 10, .on 1, 0, .wall⟩⟩,
    ⟨10800, .rules Season.russia, some ⟨1922, 10, .on 1, 0, .wall⟩⟩,
    ⟨7200, .fixed 0, some ⟨1930, 6, .on 21, 0, .wall⟩⟩,
    ⟨10800, .rules Season.russia, some ⟨1991, 3, .on 31, 7200, .standard⟩⟩,
    ⟨7200, .rules Season.russia, some ⟨1992, 1, .on 19, 7200, .standard⟩⟩,
    ⟨10800, .rules Season.russia, some ⟨2011, 3, .on 27, 7200, .standard⟩⟩,
    ⟨14400, .fixed 0, some ⟨2014, 10, .on 26, 7200, .standard⟩⟩,
    ⟨10800, .fixed 0, none⟩]

def paris : List Era :=
  [ ⟨561, .fixed 0, some ⟨1891, 3, .on 16, 0, .wall⟩⟩,
    ⟨561, .fixed 0, some ⟨1911, 3, .on 11, 0, .wall⟩⟩,
    ⟨0, .rules Season.france, some ⟨1940, 6, .on 14, 82800, .wall⟩⟩,
    ⟨3600, .rules Season.centralEurope, some ⟨1944, 8, .on 25, 0, .wall⟩⟩,
    ⟨0, .rules Season.france, some ⟨1945, 9, .on 16, 10800, .wall⟩⟩,
    ⟨3600, .rules Season.france, some ⟨1977, 1, .on 1, 0, .wall⟩⟩,
    ⟨3600, .rules Season.europeanUnion, none⟩]

def prague : List Era :=
  [ ⟨3464, .fixed 0, some ⟨1850, 1, .on 1, 0, .wall⟩⟩,
    ⟨3464, .fixed 0, some ⟨1891, 10, .on 1, 0, .wall⟩⟩,
    ⟨3600, .rules Season.centralEurope, some ⟨1945, 5, .on 9, 0, .wall⟩⟩,
    ⟨3600, .rules Season.czechia, some ⟨1946, 12, .on 1, 10800, .wall⟩⟩,
    ⟨0, .fixed 0, some ⟨1947, 2, .on 23, 7200, .wall⟩⟩,
    ⟨3600, .rules Season.czechia, some ⟨1979, 1, .on 1, 0, .wall⟩⟩,
    ⟨3600, .rules Season.europeanUnion, none⟩]

def riga : List Era :=
  [ ⟨5794, .fixed 0, some ⟨1880, 1, .on 1, 0, .wall⟩⟩,
    ⟨5794, .fixed 0, some ⟨1918, 4, .on 15, 7200, .wall⟩⟩,
    ⟨5794, .fixed 3600, some ⟨1918, 9, .on 16, 10800, .wall⟩⟩,
    ⟨5794, .fixed 0, some ⟨1919, 4, .on 1, 7200, .wall⟩⟩,
    ⟨5794, .fixed 3600, some ⟨1919, 5, .on 22, 10800, .wall⟩⟩,
    ⟨5794, .fixed 0, some ⟨1926, 5, .on 11, 0, .wall⟩⟩,
    ⟨7200, .fixed 0, some ⟨1940, 8, .on 5, 0, .wall⟩⟩,
    ⟨10800, .fixed 0, some ⟨1941, 7, .on 1, 0, .wall⟩⟩,
    ⟨3600, .rules Season.centralEurope, some ⟨1944, 10, .on 13, 0, .wall⟩⟩,
    ⟨10800, .rules Season.russia, some ⟨1989, 3, .last 0, 7200, .standard⟩⟩,
    ⟨7200, .fixed 3600, some ⟨1989, 9, .last 0, 7200, .standard⟩⟩,
    ⟨7200, .rules Season.latvia, some ⟨1997, 1, .on 21, 0, .wall⟩⟩,
    ⟨7200, .rules Season.europeanUnion, some ⟨2000, 2, .on 29, 0, .wall⟩⟩,
    ⟨7200, .fixed 0, some ⟨2001, 1, .on 2, 0, .wall⟩⟩,
    ⟨7200, .rules Season.europeanUnion, none⟩]

def rome : List Era :=
  [ ⟨2996, .fixed 0, some ⟨1866, 12, .on 12, 0, .wall⟩⟩,
    ⟨2996, .fixed 0, some ⟨1893, 10, .on 31, 82800, .universal⟩⟩,
    ⟨3600, .rules Season.italy, some ⟨1943, 9, .on 10, 0, .wall⟩⟩,
    ⟨3600, .rules Season.centralEurope, some ⟨1944, 6, .on 4, 0, .wall⟩⟩,
    ⟨3600, .rules Season.italy, some ⟨1980, 1, .on 1, 0, .wall⟩⟩,
    ⟨3600, .rules Season.europeanUnion, none⟩]

def samara : List Era :=
  [ ⟨12020, .fixed 0, some ⟨1919, 7, .on 1, 0, .universal⟩⟩,
    ⟨10800, .fixed 0, some ⟨1930, 6, .on 21, 0, .wall⟩⟩,
    ⟨14400, .fixed 0, some ⟨1935, 1, .on 27, 0, .wall⟩⟩,
    ⟨14400, .rules Season.russia, some ⟨1989, 3, .on 26, 7200, .standard⟩⟩,
    ⟨10800, .rules Season.russia, some ⟨1991, 3, .on 31, 7200, .standard⟩⟩,
    ⟨7200, .rules Season.russia, some ⟨1991, 9, .on 29, 7200, .standard⟩⟩,
    ⟨10800, .fixed 0, some ⟨1991, 10, .on 20, 10800, .wall⟩⟩,
    ⟨14400, .rules Season.russia, some ⟨2010, 3, .on 28, 7200, .standard⟩⟩,
    ⟨10800, .rules Season.russia, some ⟨2011, 3, .on 27, 7200, .standard⟩⟩,
    ⟨14400, .fixed 0, none⟩]

def saratov : List Era :=
  [ ⟨11058, .fixed 0, some ⟨1919, 7, .on 1, 0, .universal⟩⟩,
    ⟨10800, .fixed 0, some ⟨1930, 6, .on 21, 0, .wall⟩⟩,
    ⟨14400, .rules Season.russia, some ⟨1988, 3, .on 27, 7200, .standard⟩⟩,
    ⟨10800, .rules Season.russia, some ⟨1991, 3, .on 31, 7200, .standard⟩⟩,
    ⟨14400, .fixed 0, some ⟨1992, 3, .on 29, 7200, .standard⟩⟩,
    ⟨10800, .rules Season.russia, some ⟨2011, 3, .on 27, 7200, .standard⟩⟩,
    ⟨14400, .fixed 0, some ⟨2014, 10, .on 26, 7200, .standard⟩⟩,
    ⟨10800, .fixed 0, some ⟨2016, 12, .on 4, 7200, .standard⟩⟩,
    ⟨14400, .fixed 0, none⟩]

def simferopol : List Era :=
  [ ⟨8184, .fixed 0, some ⟨1880, 1, .on 1, 0, .wall⟩⟩,
    ⟨8160, .fixed 0, some ⟨1924, 5, .on 2, 0, .wall⟩⟩,
    ⟨7200, .fixed 0, some ⟨1930, 6, .on 21, 0, .wall⟩⟩,
    ⟨10800, .fixed 0, some ⟨1941, 11, .on 1, 0, .wall⟩⟩,
    ⟨3600, .rules Season.centralEurope, some ⟨1944, 4, .on 13, 0, .wall⟩⟩,
    ⟨10800, .rules Season.russia, some ⟨1990, 1, .on 1, 0, .wall⟩⟩,
    ⟨10800, .fixed 0, some ⟨1990, 7, .on 1, 7200, .wall⟩⟩,
    ⟨7200, .fixed 0, some ⟨1992, 3, .on 20, 0, .wall⟩⟩,
    ⟨7200, .rules Season.centralEurope, some ⟨1994, 5, .on 1, 0, .wall⟩⟩,
    ⟨10800, .rules Season.centralEurope, some ⟨1996, 3, .on 31, 0, .standard⟩⟩,
    ⟨10800, .fixed 3600, some ⟨1996, 10, .on 27, 10800, .standard⟩⟩,
    ⟨10800, .fixed 0, some ⟨1997, 3, .last 0, 3600, .universal⟩⟩,
    ⟨7200, .rules Season.europeanUnion, some ⟨2014, 3, .on 30, 7200, .wall⟩⟩,
    ⟨14400, .fixed 0, some ⟨2014, 10, .on 26, 7200, .standard⟩⟩,
    ⟨10800, .fixed 0, none⟩]

def sofia : List Era :=
  [ ⟨5596, .fixed 0, some ⟨1880, 1, .on 1, 0, .wall⟩⟩,
    ⟨7016, .fixed 0, some ⟨1894, 11, .on 30, 0, .wall⟩⟩,
    ⟨7200, .fixed 0, some ⟨1942, 11, .on 2, 10800, .wall⟩⟩,
    ⟨3600, .rules Season.centralEurope, some ⟨1945, 1, .on 1, 0, .wall⟩⟩,
    ⟨3600, .fixed 0, some ⟨1945, 4, .on 2, 10800, .wall⟩⟩,
    ⟨7200, .fixed 0, some ⟨1979, 3, .on 31, 82800, .wall⟩⟩,
    ⟨7200, .rules Season.bulgaria, some ⟨1982, 9, .on 26, 10800, .wall⟩⟩,
    ⟨7200, .rules Season.centralEurope, some ⟨1991, 1, .on 1, 0, .wall⟩⟩,
    ⟨7200, .rules Season.easternEurope, some ⟨1997, 1, .on 1, 0, .wall⟩⟩,
    ⟨7200, .rules Season.europeanUnion, none⟩]

def tallinn : List Era :=
  [ ⟨5940, .fixed 0, some ⟨1880, 1, .on 1, 0, .wall⟩⟩,
    ⟨5940, .fixed 0, some ⟨1918, 2, .on 1, 0, .wall⟩⟩,
    ⟨3600, .rules Season.centralEurope, some ⟨1919, 7, .on 1, 0, .wall⟩⟩,
    ⟨5940, .fixed 0, some ⟨1921, 5, .on 1, 0, .wall⟩⟩,
    ⟨7200, .fixed 0, some ⟨1940, 8, .on 6, 0, .wall⟩⟩,
    ⟨10800, .fixed 0, some ⟨1941, 9, .on 15, 0, .wall⟩⟩,
    ⟨3600, .rules Season.centralEurope, some ⟨1944, 9, .on 22, 0, .wall⟩⟩,
    ⟨10800, .rules Season.russia, some ⟨1989, 3, .on 26, 7200, .standard⟩⟩,
    ⟨7200, .fixed 3600, some ⟨1989, 9, .on 24, 7200, .standard⟩⟩,
    ⟨7200, .rules Season.centralEurope, some ⟨1998, 9, .on 22, 0, .wall⟩⟩,
    ⟨7200, .rules Season.europeanUnion, some ⟨1999, 10, .on 31, 14400, .wall⟩⟩,
    ⟨7200, .fixed 0, some ⟨2002, 2, .on 21, 0, .wall⟩⟩,
    ⟨7200, .rules Season.europeanUnion, none⟩]

def tirane : List Era :=
  [ ⟨4760, .fixed 0, some ⟨1914, 1, .on 1, 0, .wall⟩⟩,
    ⟨3600, .fixed 0, some ⟨1940, 6, .on 16, 0, .wall⟩⟩,
    ⟨3600, .rules Season.albania, some ⟨1984, 7, .on 1, 0, .wall⟩⟩,
    ⟨3600, .rules Season.europeanUnion, none⟩]

def ulyanovsk : List Era :=
  [ ⟨11616, .fixed 0, some ⟨1919, 7, .on 1, 0, .universal⟩⟩,
    ⟨10800, .fixed 0, some ⟨1930, 6, .on 21, 0, .wall⟩⟩,
    ⟨14400, .rules Season.russia, some ⟨1989, 3, .on 26, 7200, .standard⟩⟩,
    ⟨10800, .rules Season.russia, some ⟨1991, 3, .on 31, 7200, .standard⟩⟩,
    ⟨7200, .rules Season.russia, some ⟨1992, 1, .on 19, 7200, .standard⟩⟩,
    ⟨10800, .rules Season.russia, some ⟨2011, 3, .on 27, 7200, .standard⟩⟩,
    ⟨14400, .fixed 0, some ⟨2014, 10, .on 26, 7200, .standard⟩⟩,
    ⟨10800, .fixed 0, some ⟨2016, 3, .on 27, 7200, .standard⟩⟩,
    ⟨14400, .fixed 0, none⟩]

def vienna : List Era :=
  [ ⟨3921, .fixed 0, some ⟨1893, 4, .on 1, 0, .wall⟩⟩,
    ⟨3600, .rules Season.centralEurope, some ⟨1920, 1, .on 1, 0, .wall⟩⟩,
    ⟨3600, .rules Season.austria, some ⟨1940, 4, .on 1, 7200, .standard⟩⟩,
    ⟨3600, .rules Season.centralEurope, some ⟨1945, 4, .on 2, 7200, .standard⟩⟩,
    ⟨3600, .fixed 3600, some ⟨1945, 4, .on 12, 7200, .standard⟩⟩,
    ⟨3600, .fixed 0, some ⟨1946, 1, .on 1, 0, .wall⟩⟩,
    ⟨3600, .rules Season.austria, some ⟨1981, 1, .on 1, 0, .wall⟩⟩,
    ⟨3600, .rules Season.europeanUnion, none⟩]

def vilnius : List Era :=
  [ ⟨6076, .fixed 0, some ⟨1880, 1, .on 1, 0, .wall⟩⟩,
    ⟨5040, .fixed 0, some ⟨1917, 1, .on 1, 0, .wall⟩⟩,
    ⟨5736, .fixed 0, some ⟨1919, 10, .on 10, 0, .wall⟩⟩,
    ⟨3600, .fixed 0, some ⟨1920, 7, .on 12, 0, .wall⟩⟩,
    ⟨7200, .fixed 0, some ⟨1920, 10, .on 9, 0, .wall⟩⟩,
    ⟨3600, .fixed 0, some ⟨1940, 8, .on 3, 0, .wall⟩⟩,
    ⟨10800, .fixed 0, some ⟨1941, 6, .on 24, 0, .wall⟩⟩,
    ⟨3600, .rules Season.centralEurope, some ⟨1944, 8, .on 1, 0, .wall⟩⟩,
    ⟨10800, .rules Season.russia, some ⟨1989, 3, .on 26, 7200, .standard⟩⟩,
    ⟨7200, .rules Season.russia, some ⟨1991, 9, .on 29, 7200, .standard⟩⟩,
    ⟨7200, .rules Season.centralEurope, some ⟨1998, 1, .on 1, 0, .wall⟩⟩,
    ⟨7200, .fixed 0, some ⟨1998, 3, .on 29, 3600, .universal⟩⟩,
    ⟨3600, .rules Season.europeanUnion, some ⟨1999, 10, .on 31, 3600, .universal⟩⟩,
    ⟨7200, .fixed 0, some ⟨2003, 1, .on 1, 0, .wall⟩⟩,
    ⟨7200, .rules Season.europeanUnion, none⟩]

def volgograd : List Era :=
  [ ⟨10660, .fixed 0, some ⟨1920, 1, .on 3, 0, .wall⟩⟩,
    ⟨10800, .fixed 0, some ⟨1930, 6, .on 21, 0, .wall⟩⟩,
    ⟨14400, .fixed 0, some ⟨1961, 11, .on 11, 0, .wall⟩⟩,
    ⟨14400, .rules Season.russia, some ⟨1988, 3, .on 27, 7200, .standard⟩⟩,
    ⟨10800, .rules Season.russia, some ⟨1991, 3, .on 31, 7200, .standard⟩⟩,
    ⟨14400, .fixed 0, some ⟨1992, 3, .on 29, 7200, .standard⟩⟩,
    ⟨10800, .rules Season.russia, some ⟨2011, 3, .on 27, 7200, .standard⟩⟩,
    ⟨14400, .fixed 0, some ⟨2014, 10, .on 26, 7200, .standard⟩⟩,
    ⟨10800, .fixed 0, some ⟨2018, 10, .on 28, 7200, .standard⟩⟩,
    ⟨14400, .fixed 0, some ⟨2020, 12, .on 27, 7200, .standard⟩⟩,
    ⟨10800, .fixed 0, none⟩]

def warsaw : List Era :=
  [ ⟨5040, .fixed 0, some ⟨1880, 1, .on 1, 0, .wall⟩⟩,
    ⟨5040, .fixed 0, some ⟨1915, 8, .on 5, 0, .wall⟩⟩,
    ⟨3600, .rules Season.centralEurope, some ⟨1918, 9, .on 16, 10800, .wall⟩⟩,
    ⟨7200, .rules Season.poland, some ⟨1922, 6, .on 1, 0, .wall⟩⟩,
    ⟨3600, .rules Season.poland, some ⟨1940, 6, .on 23, 7200, .wall⟩⟩,
    ⟨3600, .rules Season.centralEurope, some ⟨1944, 10, .on 1, 0, .wall⟩⟩,
    ⟨3600, .rules Season.poland, some ⟨1977, 1, .on 1, 0, .wall⟩⟩,
    ⟨3600, .rules Season.westernEurope, some ⟨1988, 1, .on 1, 0, .wall⟩⟩,
    ⟨3600, .rules Season.europeanUnion, none⟩]

def zurich : List Era :=
  [ ⟨2048, .fixed 0, some ⟨1853, 7, .on 16, 0, .wall⟩⟩,
    ⟨1786, .fixed 0, some ⟨1894, 6, .on 1, 0, .wall⟩⟩,
    ⟨3600, .rules Season.switzerland, some ⟨1981, 1, .on 1, 0, .wall⟩⟩,
    ⟨3600, .rules Season.europeanUnion, none⟩]

def all : List (String × List Era) :=
  [ ("Europe/Andorra", andorra),
    ("Europe/Astrakhan", astrakhan),
    ("Europe/Athens", athens),
    ("Europe/Belgrade", belgrade),
    ("Europe/Berlin", berlin),
    ("Europe/Brussels", brussels),
    ("Europe/Bucharest", bucharest),
    ("Europe/Budapest", budapest),
    ("Europe/Chisinau", chisinau),
    ("Europe/Dublin", dublin),
    ("Europe/Gibraltar", gibraltar),
    ("Europe/Helsinki", helsinki),
    ("Europe/Istanbul", istanbul),
    ("Europe/Kaliningrad", kaliningrad),
    ("Europe/Kirov", kirov),
    ("Europe/Kyiv", kyiv),
    ("Europe/Lisbon", lisbon),
    ("Europe/London", london),
    ("Europe/Madrid", madrid),
    ("Europe/Malta", malta),
    ("Europe/Minsk", minsk),
    ("Europe/Moscow", moscow),
    ("Europe/Paris", paris),
    ("Europe/Prague", prague),
    ("Europe/Riga", riga),
    ("Europe/Rome", rome),
    ("Europe/Samara", samara),
    ("Europe/Saratov", saratov),
    ("Europe/Simferopol", simferopol),
    ("Europe/Sofia", sofia),
    ("Europe/Tallinn", tallinn),
    ("Europe/Tirane", tirane),
    ("Europe/Ulyanovsk", ulyanovsk),
    ("Europe/Vienna", vienna),
    ("Europe/Vilnius", vilnius),
    ("Europe/Volgograd", volgograd),
    ("Europe/Warsaw", warsaw),
    ("Europe/Zurich", zurich)]

end Analytics.Zone.Region.Europe
