import Analytics.Zone.Season

/-!
Seasonal clock changes of South America.
-/

namespace Analytics.Zone.Season

def argentina : List SeasonRule :=
  [ ⟨1930, 1930, 12, .on 1, 0, .wall, 3600⟩,
    ⟨1931, 1931, 4, .on 1, 0, .wall, 0⟩,
    ⟨1931, 1931, 10, .on 15, 0, .wall, 3600⟩,
    ⟨1932, 1940, 3, .on 1, 0, .wall, 0⟩,
    ⟨1932, 1939, 11, .on 1, 0, .wall, 3600⟩,
    ⟨1940, 1940, 7, .on 1, 0, .wall, 3600⟩,
    ⟨1941, 1941, 6, .on 15, 0, .wall, 0⟩,
    ⟨1941, 1941, 10, .on 15, 0, .wall, 3600⟩,
    ⟨1943, 1943, 8, .on 1, 0, .wall, 0⟩,
    ⟨1943, 1943, 10, .on 15, 0, .wall, 3600⟩,
    ⟨1946, 1946, 3, .on 1, 0, .wall, 0⟩,
    ⟨1946, 1946, 10, .on 1, 0, .wall, 3600⟩,
    ⟨1963, 1963, 10, .on 1, 0, .wall, 0⟩,
    ⟨1963, 1963, 12, .on 15, 0, .wall, 3600⟩,
    ⟨1964, 1966, 3, .on 1, 0, .wall, 0⟩,
    ⟨1964, 1966, 10, .on 15, 0, .wall, 3600⟩,
    ⟨1967, 1967, 4, .on 2, 0, .wall, 0⟩,
    ⟨1967, 1968, 10, .onOrAfter 0 1, 0, .wall, 3600⟩,
    ⟨1968, 1969, 4, .onOrAfter 0 1, 0, .wall, 0⟩,
    ⟨1974, 1974, 1, .on 23, 0, .wall, 3600⟩,
    ⟨1974, 1974, 5, .on 1, 0, .wall, 0⟩,
    ⟨1988, 1988, 12, .on 1, 0, .wall, 3600⟩,
    ⟨1989, 1993, 3, .onOrAfter 0 1, 0, .wall, 0⟩,
    ⟨1989, 1992, 10, .onOrAfter 0 15, 0, .wall, 3600⟩,
    ⟨1999, 1999, 10, .onOrAfter 0 1, 0, .wall, 3600⟩,
    ⟨2000, 2000, 3, .on 3, 0, .wall, 0⟩,
    ⟨2007, 2007, 12, .on 30, 0, .wall, 3600⟩,
    ⟨2008, 2009, 3, .onOrAfter 0 15, 0, .wall, 0⟩,
    ⟨2008, 2008, 10, .onOrAfter 0 15, 0, .wall, 3600⟩]

def sanLuis : List SeasonRule :=
  [ ⟨2008, 2009, 3, .onOrAfter 0 8, 0, .wall, 0⟩,
    ⟨2007, 2008, 10, .onOrAfter 0 8, 0, .wall, 3600⟩]

def brazil : List SeasonRule :=
  [ ⟨1931, 1931, 10, .on 3, 39600, .wall, 3600⟩,
    ⟨1932, 1933, 4, .on 1, 0, .wall, 0⟩,
    ⟨1932, 1932, 10, .on 3, 0, .wall, 3600⟩,
    ⟨1949, 1952, 12, .on 1, 0, .wall, 3600⟩,
    ⟨1950, 1950, 4, .on 16, 3600, .wall, 0⟩,
    ⟨1951, 1952, 4, .on 1, 0, .wall, 0⟩,
    ⟨1953, 1953, 3, .on 1, 0, .wall, 0⟩,
    ⟨1963, 1963, 12, .on 9, 0, .wall, 3600⟩,
    ⟨1964, 1964, 3, .on 1, 0, .wall, 0⟩,
    ⟨1965, 1965, 1, .on 31, 0, .wall, 3600⟩,
    ⟨1965, 1965, 3, .on 31, 0, .wall, 0⟩,
    ⟨1965, 1965, 12, .on 1, 0, .wall, 3600⟩,
    ⟨1966, 1968, 3, .on 1, 0, .wall, 0⟩,
    ⟨1966, 1967, 11, .on 1, 0, .wall, 3600⟩,
    ⟨1985, 1985, 11, .on 2, 0, .wall, 3600⟩,
    ⟨1986, 1986, 3, .on 15, 0, .wall, 0⟩,
    ⟨1986, 1986, 10, .on 25, 0, .wall, 3600⟩,
    ⟨1987, 1987, 2, .on 14, 0, .wall, 0⟩,
    ⟨1987, 1987, 10, .on 25, 0, .wall, 3600⟩,
    ⟨1988, 1988, 2, .on 7, 0, .wall, 0⟩,
    ⟨1988, 1988, 10, .on 16, 0, .wall, 3600⟩,
    ⟨1989, 1989, 1, .on 29, 0, .wall, 0⟩,
    ⟨1989, 1989, 10, .on 15, 0, .wall, 3600⟩,
    ⟨1990, 1990, 2, .on 11, 0, .wall, 0⟩,
    ⟨1990, 1990, 10, .on 21, 0, .wall, 3600⟩,
    ⟨1991, 1991, 2, .on 17, 0, .wall, 0⟩,
    ⟨1991, 1991, 10, .on 20, 0, .wall, 3600⟩,
    ⟨1992, 1992, 2, .on 9, 0, .wall, 0⟩,
    ⟨1992, 1992, 10, .on 25, 0, .wall, 3600⟩,
    ⟨1993, 1993, 1, .on 31, 0, .wall, 0⟩,
    ⟨1993, 1995, 10, .onOrAfter 0 11, 0, .wall, 3600⟩,
    ⟨1994, 1995, 2, .onOrAfter 0 15, 0, .wall, 0⟩,
    ⟨1996, 1996, 2, .on 11, 0, .wall, 0⟩,
    ⟨1996, 1996, 10, .on 6, 0, .wall, 3600⟩,
    ⟨1997, 1997, 2, .on 16, 0, .wall, 0⟩,
    ⟨1997, 1997, 10, .on 6, 0, .wall, 3600⟩,
    ⟨1998, 1998, 3, .on 1, 0, .wall, 0⟩,
    ⟨1998, 1998, 10, .on 11, 0, .wall, 3600⟩,
    ⟨1999, 1999, 2, .on 21, 0, .wall, 0⟩,
    ⟨1999, 1999, 10, .on 3, 0, .wall, 3600⟩,
    ⟨2000, 2000, 2, .on 27, 0, .wall, 0⟩,
    ⟨2000, 2001, 10, .onOrAfter 0 8, 0, .wall, 3600⟩,
    ⟨2001, 2006, 2, .onOrAfter 0 15, 0, .wall, 0⟩,
    ⟨2002, 2002, 11, .on 3, 0, .wall, 3600⟩,
    ⟨2003, 2003, 10, .on 19, 0, .wall, 3600⟩,
    ⟨2004, 2004, 11, .on 2, 0, .wall, 3600⟩,
    ⟨2005, 2005, 10, .on 16, 0, .wall, 3600⟩,
    ⟨2006, 2006, 11, .on 5, 0, .wall, 3600⟩,
    ⟨2007, 2007, 2, .on 25, 0, .wall, 0⟩,
    ⟨2007, 2007, 10, .onOrAfter 0 8, 0, .wall, 3600⟩,
    ⟨2008, 2017, 10, .onOrAfter 0 15, 0, .wall, 3600⟩,
    ⟨2008, 2011, 2, .onOrAfter 0 15, 0, .wall, 0⟩,
    ⟨2012, 2012, 2, .onOrAfter 0 22, 0, .wall, 0⟩,
    ⟨2013, 2014, 2, .onOrAfter 0 15, 0, .wall, 0⟩,
    ⟨2015, 2015, 2, .onOrAfter 0 22, 0, .wall, 0⟩,
    ⟨2016, 2019, 2, .onOrAfter 0 15, 0, .wall, 0⟩,
    ⟨2018, 2018, 11, .onOrAfter 0 1, 0, .wall, 3600⟩]

def chile : List SeasonRule :=
  [ ⟨1927, 1931, 9, .on 1, 0, .wall, 3600⟩,
    ⟨1928, 1932, 4, .on 1, 0, .wall, 0⟩,
    ⟨1968, 1968, 11, .on 3, 14400, .universal, 3600⟩,
    ⟨1969, 1969, 3, .on 30, 10800, .universal, 0⟩,
    ⟨1969, 1969, 11, .on 23, 14400, .universal, 3600⟩,
    ⟨1970, 1970, 3, .on 29, 10800, .universal, 0⟩,
    ⟨1971, 1971, 3, .on 14, 10800, .universal, 0⟩,
    ⟨1970, 1972, 10, .onOrAfter 0 9, 14400, .universal, 3600⟩,
    ⟨1972, 1986, 3, .onOrAfter 0 9, 10800, .universal, 0⟩,
    ⟨1973, 1973, 9, .on 30, 14400, .universal, 3600⟩,
    ⟨1974, 1987, 10, .onOrAfter 0 9, 14400, .universal, 3600⟩,
    ⟨1987, 1987, 4, .on 12, 10800, .universal, 0⟩,
    ⟨1988, 1990, 3, .onOrAfter 0 9, 10800, .universal, 0⟩,
    ⟨1988, 1989, 10, .onOrAfter 0 9, 14400, .universal, 3600⟩,
    ⟨1990, 1990, 9, .on 16, 14400, .universal, 3600⟩,
    ⟨1991, 1996, 3, .onOrAfter 0 9, 10800, .universal, 0⟩,
    ⟨1991, 1997, 10, .onOrAfter 0 9, 14400, .universal, 3600⟩,
    ⟨1997, 1997, 3, .on 30, 10800, .universal, 0⟩,
    ⟨1998, 1998, 3, .onOrAfter 0 9, 10800, .universal, 0⟩,
    ⟨1998, 1998, 9, .on 27, 14400, .universal, 3600⟩,
    ⟨1999, 1999, 4, .on 4, 10800, .universal, 0⟩,
    ⟨1999, 2010, 10, .onOrAfter 0 9, 14400, .universal, 3600⟩,
    ⟨2000, 2007, 3, .onOrAfter 0 9, 10800, .universal, 0⟩,
    ⟨2008, 2008, 3, .on 30, 10800, .universal, 0⟩,
    ⟨2009, 2009, 3, .onOrAfter 0 9, 10800, .universal, 0⟩,
    ⟨2010, 2010, 4, .onOrAfter 0 1, 10800, .universal, 0⟩,
    ⟨2011, 2011, 5, .onOrAfter 0 2, 10800, .universal, 0⟩,
    ⟨2011, 2011, 8, .onOrAfter 0 16, 14400, .universal, 3600⟩,
    ⟨2012, 2014, 4, .onOrAfter 0 23, 10800, .universal, 0⟩,
    ⟨2012, 2014, 9, .onOrAfter 0 2, 14400, .universal, 3600⟩,
    ⟨2016, 2018, 5, .onOrAfter 0 9, 10800, .universal, 0⟩,
    ⟨2016, 2018, 8, .onOrAfter 0 9, 14400, .universal, 3600⟩,
    ⟨2019, 9999, 4, .onOrAfter 0 2, 10800, .universal, 0⟩,
    ⟨2019, 2021, 9, .onOrAfter 0 2, 14400, .universal, 3600⟩,
    ⟨2022, 2022, 9, .onOrAfter 0 9, 14400, .universal, 3600⟩,
    ⟨2023, 9999, 9, .onOrAfter 0 2, 14400, .universal, 3600⟩]

def colombia : List SeasonRule :=
  [ ⟨1992, 1992, 5, .on 3, 0, .wall, 3600⟩,
    ⟨1993, 1993, 2, .on 6, 86400, .wall, 0⟩]

def ecuador : List SeasonRule :=
  [ ⟨1992, 1992, 11, .on 28, 0, .wall, 3600⟩,
    ⟨1993, 1993, 2, .on 5, 0, .wall, 0⟩]

def falklands : List SeasonRule :=
  [ ⟨1937, 1938, 9, .last 0, 0, .wall, 3600⟩,
    ⟨1938, 1942, 3, .onOrAfter 0 19, 0, .wall, 0⟩,
    ⟨1939, 1939, 10, .on 1, 0, .wall, 3600⟩,
    ⟨1940, 1942, 9, .last 0, 0, .wall, 3600⟩,
    ⟨1943, 1943, 1, .on 1, 0, .wall, 0⟩,
    ⟨1983, 1983, 9, .last 0, 0, .wall, 3600⟩,
    ⟨1984, 1985, 4, .last 0, 0, .wall, 0⟩,
    ⟨1984, 1984, 9, .on 16, 0, .wall, 3600⟩,
    ⟨1985, 2000, 9, .onOrAfter 0 9, 0, .wall, 3600⟩,
    ⟨1986, 2000, 4, .onOrAfter 0 16, 0, .wall, 0⟩,
    ⟨2001, 2010, 4, .onOrAfter 0 15, 7200, .wall, 0⟩,
    ⟨2001, 2010, 9, .onOrAfter 0 1, 7200, .wall, 3600⟩]

def paraguay : List SeasonRule :=
  [ ⟨1975, 1988, 10, .on 1, 0, .wall, 3600⟩,
    ⟨1975, 1978, 3, .on 1, 0, .wall, 0⟩,
    ⟨1979, 1991, 4, .on 1, 0, .wall, 0⟩,
    ⟨1989, 1989, 10, .on 22, 0, .wall, 3600⟩,
    ⟨1990, 1990, 10, .on 1, 0, .wall, 3600⟩,
    ⟨1991, 1991, 10, .on 6, 0, .wall, 3600⟩,
    ⟨1992, 1992, 3, .on 1, 0, .wall, 0⟩,
    ⟨1992, 1992, 10, .on 5, 0, .wall, 3600⟩,
    ⟨1993, 1993, 3, .on 31, 0, .wall, 0⟩,
    ⟨1993, 1995, 10, .on 1, 0, .wall, 3600⟩,
    ⟨1994, 1995, 2, .last 0, 0, .wall, 0⟩,
    ⟨1996, 1996, 3, .on 1, 0, .wall, 0⟩,
    ⟨1996, 2001, 10, .onOrAfter 0 1, 0, .wall, 3600⟩,
    ⟨1997, 1997, 2, .last 0, 0, .wall, 0⟩,
    ⟨1998, 2001, 3, .onOrAfter 0 1, 0, .wall, 0⟩,
    ⟨2002, 2004, 4, .onOrAfter 0 1, 0, .wall, 0⟩,
    ⟨2002, 2003, 9, .onOrAfter 0 1, 0, .wall, 3600⟩,
    ⟨2004, 2009, 10, .onOrAfter 0 15, 0, .wall, 3600⟩,
    ⟨2005, 2009, 3, .onOrAfter 0 8, 0, .wall, 0⟩,
    ⟨2010, 2024, 10, .onOrAfter 0 1, 0, .wall, 3600⟩,
    ⟨2010, 2012, 4, .onOrAfter 0 8, 0, .wall, 0⟩,
    ⟨2013, 2024, 3, .onOrAfter 0 22, 0, .wall, 0⟩]

def peru : List SeasonRule :=
  [ ⟨1938, 1938, 1, .on 1, 0, .wall, 3600⟩,
    ⟨1938, 1938, 4, .on 1, 0, .wall, 0⟩,
    ⟨1938, 1939, 9, .last 0, 0, .wall, 3600⟩,
    ⟨1939, 1940, 3, .onOrAfter 0 24, 0, .wall, 0⟩,
    ⟨1986, 1987, 1, .on 1, 0, .wall, 3600⟩,
    ⟨1986, 1987, 4, .on 1, 0, .wall, 0⟩,
    ⟨1990, 1990, 1, .on 1, 0, .wall, 3600⟩,
    ⟨1990, 1990, 4, .on 1, 0, .wall, 0⟩,
    ⟨1994, 1994, 1, .on 1, 0, .wall, 3600⟩,
    ⟨1994, 1994, 4, .on 1, 0, .wall, 0⟩]

def uruguay : List SeasonRule :=
  [ ⟨1923, 1925, 10, .on 1, 0, .wall, 1800⟩,
    ⟨1924, 1926, 4, .on 1, 0, .wall, 0⟩,
    ⟨1933, 1938, 10, .last 0, 0, .wall, 1800⟩,
    ⟨1934, 1941, 3, .last 6, 86400, .wall, 0⟩,
    ⟨1939, 1939, 10, .on 1, 0, .wall, 1800⟩,
    ⟨1940, 1940, 10, .on 27, 0, .wall, 1800⟩,
    ⟨1941, 1941, 8, .on 1, 0, .wall, 1800⟩,
    ⟨1942, 1942, 12, .on 14, 0, .wall, 1800⟩,
    ⟨1943, 1943, 3, .on 14, 0, .wall, 0⟩,
    ⟨1959, 1959, 5, .on 24, 0, .wall, 1800⟩,
    ⟨1959, 1959, 11, .on 15, 0, .wall, 0⟩,
    ⟨1960, 1960, 1, .on 17, 0, .wall, 3600⟩,
    ⟨1960, 1960, 3, .on 6, 0, .wall, 0⟩,
    ⟨1965, 1965, 4, .on 4, 0, .wall, 3600⟩,
    ⟨1965, 1965, 9, .on 26, 0, .wall, 0⟩,
    ⟨1968, 1968, 5, .on 27, 0, .wall, 1800⟩,
    ⟨1968, 1968, 12, .on 1, 0, .wall, 0⟩,
    ⟨1970, 1970, 4, .on 25, 0, .wall, 3600⟩,
    ⟨1970, 1970, 6, .on 14, 0, .wall, 0⟩,
    ⟨1972, 1972, 4, .on 23, 0, .wall, 3600⟩,
    ⟨1972, 1972, 7, .on 16, 0, .wall, 0⟩,
    ⟨1974, 1974, 1, .on 13, 0, .wall, 5400⟩,
    ⟨1974, 1974, 3, .on 10, 0, .wall, 1800⟩,
    ⟨1974, 1974, 9, .on 1, 0, .wall, 0⟩,
    ⟨1974, 1974, 12, .on 22, 0, .wall, 3600⟩,
    ⟨1975, 1975, 3, .on 30, 0, .wall, 0⟩,
    ⟨1976, 1976, 12, .on 19, 0, .wall, 3600⟩,
    ⟨1977, 1977, 3, .on 6, 0, .wall, 0⟩,
    ⟨1977, 1977, 12, .on 4, 0, .wall, 3600⟩,
    ⟨1978, 1979, 3, .onOrAfter 0 1, 0, .wall, 0⟩,
    ⟨1978, 1978, 12, .on 17, 0, .wall, 3600⟩,
    ⟨1979, 1979, 4, .on 29, 0, .wall, 3600⟩,
    ⟨1980, 1980, 3, .on 16, 0, .wall, 0⟩,
    ⟨1987, 1987, 12, .on 14, 0, .wall, 3600⟩,
    ⟨1988, 1988, 2, .on 28, 0, .wall, 0⟩,
    ⟨1988, 1988, 12, .on 11, 0, .wall, 3600⟩,
    ⟨1989, 1989, 3, .on 5, 0, .wall, 0⟩,
    ⟨1989, 1989, 10, .on 29, 0, .wall, 3600⟩,
    ⟨1990, 1990, 2, .on 25, 0, .wall, 0⟩,
    ⟨1990, 1991, 10, .onOrAfter 0 21, 0, .wall, 3600⟩,
    ⟨1991, 1992, 3, .onOrAfter 0 1, 0, .wall, 0⟩,
    ⟨1992, 1992, 10, .on 18, 0, .wall, 3600⟩,
    ⟨1993, 1993, 2, .on 28, 0, .wall, 0⟩,
    ⟨2004, 2004, 9, .on 19, 0, .wall, 3600⟩,
    ⟨2005, 2005, 3, .on 27, 7200, .wall, 0⟩,
    ⟨2005, 2005, 10, .on 9, 7200, .wall, 3600⟩,
    ⟨2006, 2015, 3, .onOrAfter 0 8, 7200, .wall, 0⟩,
    ⟨2006, 2014, 10, .onOrAfter 0 1, 7200, .wall, 3600⟩]

end Analytics.Zone.Season
